import CulpeoStream.Dotnet.AuthChallenges
import CulpeoStream.Typescript.AuthChallenges
import CulpeoStream.Typescript.Finality

/-!
# One outstanding challenge

The two servers with a single auth challenge at a time.  The C# server refuses to issue a
second one.  The TypeScript server does not, and has one at a time when it is asked for a
challenge only after the last one has been answered.
-/

namespace CulpeoStream

open Challenges EventLoop Message Utf16

/-- What the moves on a TypeScript server mean for the challenges. -/
def Typescript.runMarks (o : Typescript.LinkOptions)
    (moves : List (Typescript.SessionMove Typescript.ServerEntry)) : List (Mark Utf16.Text) :=
  marks (step Typescript.instant (Typescript.ServerEntry.program o)) (Typescript.challengeMarks o)
    { state := .createServer } moves

/-- What the calls on a C# connection mean for the challenges. -/
def Dotnet.callMarks (env : Dotnet.Environment) (calls : List Dotnet.ConnectionCall) :
    List (Mark Bytes) :=
  marks (Dotnet.ConnectionCall.next env) (Dotnet.challengeMarks env) {} calls

/-- **One challenge at a time**, and an established session holds the one that is open. -/
theorem one_outstanding_challenge (o : Typescript.LinkOptions) (env : Dotnet.Environment) :
    (∀ moves : List (Typescript.SessionMove Typescript.ServerEntry),
      Along Typescript.instant (Typescript.ServerEntry.program o) Typescript.AsksWhenAnswered
        { state := .createServer } moves →
      Single [] (Typescript.runMarks o moves) ∧
        ((Typescript.runServer o { state := .createServer } moves).state.stateValue =
            .established →
          ∀ nonce ∈ opened [] (Typescript.runMarks o moves),
            (Typescript.runServer o { state := .createServer } moves).state.pendingAuthNonce =
              some nonce)) ∧
    ∀ calls : List Dotnet.ConnectionCall,
      Single [] (Dotnet.callMarks env calls) ∧
        ((calls.foldl (Dotnet.ConnectionCall.next env) {}).state = .established →
          ∀ bytes ∈ opened [] (Dotnet.callMarks env calls), ∃ nonce,
            (calls.foldl (Dotnet.ConnectionCall.next env) {}).pendingNonce = some nonce ∧
              Dotnet.asciiBytes nonce = bytes) := by
  refine ⟨fun moves hmoves => ?_, fun calls => ?_⟩
  · obtain ⟨hsingle, hkept⟩ := Typescript.challenged_run o hmoves
    refine ⟨hsingle, fun _ nonce hnonce => ?_⟩
    have hpending : opened [] (Typescript.runMarks o moves) = _ := hkept.current
    rw [hpending] at hnonce
    exact Option.mem_toList.mp hnonce
  · obtain ⟨hsingle, hcurrent⟩ := Dotnet.challenged_calls env calls
    refine ⟨hsingle, fun hstate bytes hbytes => ?_⟩
    have hopen : (calls.foldl (Dotnet.ConnectionCall.next env) {}).state ≠ .closed := by
      rw [hstate]
      decide
    have hpending : opened [] (Dotnet.callMarks env calls) = _ := hcurrent hopen
    rw [hpending] at hbytes
    obtain ⟨nonce, hnonce, hbytes⟩ := List.mem_map.mp hbytes
    exact ⟨nonce, Option.mem_toList.mp hnonce, hbytes⟩

namespace Typescript

/-- An established server that has issued a challenge. -/
def challengedServer : List (SessionMove ServerEntry) :=
  greetedServer ++ [.settle 0 (some []), .enter (.call (.requestAuthRefresh 0))]

/-- The challenge is answered. -/
def answeredServer : List (SessionMove ServerEntry) :=
  challengedServer ++
    [.settle 0 (some []),
      .enter (.receive 1 (.authResponse (utf16 "Bearer u") (utf16 "aaa"))),
      .settle 0 (some [])]

end Typescript

/-- A second challenge after the answer to the first one. -/
theorem one_outstanding_challenge_example :
    Single [] (Typescript.runMarks Typescript.uploadLink
      (Typescript.answeredServer ++ [.enter (.call (.requestAuthRefresh 2))])) ∧
    ∀ calls, Single [] (Dotnet.callMarks (.reading []) calls) := by
  obtain ⟨htypescript, hdotnet⟩ := one_outstanding_challenge Typescript.uploadLink (.reading [])
  refine ⟨(htypescript _ ?_).1, fun calls => (hdotnet calls).1⟩
  refine ⟨trivial, trivial, trivial, fun _ => ?_, trivial, trivial, trivial, fun _ => ?_, trivial⟩
  · rfl
  · decide

/-- The TypeScript server issues a second challenge while the first one is open. -/
theorem second_challenge_is_issued :
    ¬ Single [] (Typescript.runMarks Typescript.uploadLink
      (Typescript.challengedServer ++ [.enter (.call (.requestAuthRefresh 1))])) := by
  have hmarks : Typescript.runMarks Typescript.uploadLink
      (Typescript.challengedServer ++ [.enter (.call (.requestAuthRefresh 1))]) =
        [.issued (utf16 "aaa"), .issued (utf16 "aaaa")] := by decide
  rw [hmarks]
  rintro ⟨-, hclear, -⟩
  cases hclear

end CulpeoStream
