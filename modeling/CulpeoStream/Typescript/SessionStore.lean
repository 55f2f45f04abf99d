import CulpeoStream.Lib.History
import CulpeoStream.Lib.InsertionMap
import CulpeoStream.Lib.Recency
import CulpeoStream.Typescript.Streams
import Mathlib.Data.List.MinMax

/-!
# `store.ts`

The session store in memory.  Every save and every load that finds something draws a new stamp
from a counter, and a save of a new session into a full store first removes the entry with the
least stamp, which a scan over all entries finds.

`Kept` is what holds of a store after any calls: the counter has counted the uses of sessions,
and every entry bears the place of the last use of its session, and what was saved last.
-/

namespace CulpeoStream.Typescript

open History Recency Utf16

structure StoredEntry where
  snapshot : SessionSnapshot
  /-- The time after which the entry is stale, if it expires. -/
  expiresAt : Option ℤ
  lastAccessedAt : ℕ
  deriving DecidableEq

/-- `InMemorySessionStore`. -/
structure SessionStore where
  maxSessions : ℕ := 1000
  ttlMs : Option ℤ := none
  sessions : InsertionMap Text StoredEntry := .empty
  accessCounter : ℕ := 0

namespace SessionStore

/-- One turn of the scan for the entry to evict. -/
def scanLru (lru : Option (Text × StoredEntry)) (entry : Text × StoredEntry) :
    Option (Text × StoredEntry) :=
  match lru with
  | none => some entry
  | some least => if entry.2.lastAccessedAt < least.2.lastAccessedAt then some entry else some least

def lruKey (sessions : InsertionMap Text StoredEntry) : Option Text :=
  (sessions.entries.foldl scanLru none).map Prod.fst

/-- The sessions after the eviction that a save may make. -/
def makeRoom (store : SessionStore) (sessionId : Text) : InsertionMap Text StoredEntry :=
  if sessionId ∉ store.sessions.keys ∧ store.maxSessions ≤ store.sessions.size then
    match lruKey store.sessions with
    | none => store.sessions
    | some key => store.sessions.erase key
  else store.sessions

def save (store : SessionStore) (now : ℤ) (snapshot : SessionSnapshot) : SessionStore :=
  let entry : StoredEntry :=
    { snapshot
      expiresAt := store.ttlMs.map (now + ·)
      lastAccessedAt := store.accessCounter + 1 }
  { store with
    sessions := (store.makeRoom snapshot.sessionId).set snapshot.sessionId entry
    accessCounter := store.accessCounter + 1 }

def load (store : SessionStore) (now : ℤ) (sessionId : Text) :
    Option SessionSnapshot × SessionStore :=
  match store.sessions.get sessionId with
  | none => (none, store)
  | some entry =>
      if entry.expiresAt.any fun expiresAt => expiresAt < now then
        (none, { store with sessions := store.sessions.erase sessionId })
      else
        let entry' := { entry with lastAccessedAt := store.accessCounter + 1 }
        (some entry.snapshot,
          { store with
            sessions := store.sessions.set sessionId entry'
            accessCounter := store.accessCounter + 1 })

def delete (store : SessionStore) (sessionId : Text) : SessionStore :=
  { store with sessions := store.sessions.erase sessionId }

end SessionStore

/-! ### Runs -/

/-- A call of the store at a time of the clock. -/
inductive StoreCall where
  | save (now : ℤ) (snapshot : SessionSnapshot)
  | load (now : ℤ) (sessionId : Text)
  | delete (now : ℤ) (sessionId : Text)

def StoreCall.now : StoreCall → ℤ
  | save now _ => now
  | load now _ => now
  | delete now _ => now

/-- The value that a call returns, and the store that it leaves. -/
def StoreCall.act (call : StoreCall) (store : SessionStore) :
    Option SessionSnapshot × SessionStore :=
  match call with
  | save now snapshot => (none, store.save now snapshot)
  | load now sessionId => store.load now sessionId
  | delete _ sessionId => (none, store.delete sessionId)

abbrev StoreRecord := Record SessionStore StoreCall (Option SessionSnapshot × SessionStore)

/-- The records of a run from an empty store. -/
def storeHistory (maxSessions : ℕ) (ttlMs : Option ℤ) (calls : List StoreCall) :
    List StoreRecord :=
  history StoreCall.act Prod.snd { maxSessions, ttlMs } calls

/-- The session that a call used: it was saved, or found. -/
def StoreRecord.use (r : StoreRecord) : Option Text :=
  match r.call with
  | .save _ snapshot => some snapshot.sessionId
  | .load _ sessionId => r.result.1.map fun _ => sessionId
  | .delete _ _ => none

def uses (past : List StoreRecord) : List Text := past.filterMap StoreRecord.use

/-- A call removed a session from the store. -/
def StoreRecord.Removes (r : StoreRecord) (sessionId : Text) : Prop :=
  sessionId ∈ r.before.sessions.keys ∧ sessionId ∉ r.result.2.sessions.keys

instance (r : StoreRecord) (sessionId : Text) : Decidable (r.Removes sessionId) :=
  inferInstanceAs (Decidable (_ ∧ _))

/-- What a call leaves of the last save of a session: a new save takes its place, and a
deletion or an eviction ends it. -/
def StoreRecord.recall (sessionId : Text) (saved : Option (ℤ × SessionSnapshot))
    (r : StoreRecord) : Option (ℤ × SessionSnapshot) :=
  match r.call with
  | .save now snapshot =>
      if snapshot.sessionId = sessionId then some (now, snapshot)
      else if r.Removes sessionId then none
      else saved
  | .load _ _ => saved
  | .delete _ deleted => if deleted = sessionId then none else saved

/-- The time and the snapshot of the last save of a session, unless it was deleted or evicted
since. -/
def lastSave (sessionId : Text) (past : List StoreRecord) : Option (ℤ × SessionSnapshot) :=
  past.foldl (StoreRecord.recall sessionId) none

theorem uses_concat (past : List StoreRecord) (r : StoreRecord) :
    uses (past ++ [r]) = uses past ++ r.use.toList := by
  rw [uses, List.filterMap_append]
  cases h : r.use with
  | none => simp [uses, h]
  | some sessionId => simp [uses, h]

theorem lastSave_concat (sessionId : Text) (past : List StoreRecord) (r : StoreRecord) :
    lastSave sessionId (past ++ [r]) = r.recall sessionId (lastSave sessionId past) := by
  rw [lastSave, List.foldl_append]
  rfl

/-! ### The scan -/

theorem foldl_scanLru (entries : List (Text × StoredEntry)) :
    entries.foldl SessionStore.scanLru none =
      entries.argmin fun entry => entry.2.lastAccessedAt := by
  have hscan : SessionStore.scanLru =
      List.argAux fun b c : Text × StoredEntry => b.2.lastAccessedAt < c.2.lastAccessedAt := by
    funext lru entry
    cases lru with
    | none => rfl
    | some least => rfl
  rw [hscan]
  rfl

/-- **The scan finds the least stamp.** -/
theorem lruKey_eq_some {sessions : InsertionMap Text StoredEntry} {key : Text}
    (h : SessionStore.lruKey sessions = some key) :
    ∃ entry, sessions.get key = some entry ∧ ∀ other otherEntry,
      sessions.get other = some otherEntry → entry.lastAccessedAt ≤ otherEntry.lastAccessedAt := by
  rw [SessionStore.lruKey, foldl_scanLru] at h
  obtain ⟨⟨key', entry⟩, hleast, rfl⟩ := Option.map_eq_some_iff.mp h
  refine ⟨entry, InsertionMap.get_eq_some_iff.mpr (List.argmin_mem hleast), ?_⟩
  intro other otherEntry hother
  exact @List.le_of_mem_argmin _ _ _ (fun entry : Text × StoredEntry => entry.2.lastAccessedAt)
    _ _ _ (InsertionMap.get_eq_some_iff.mp hother) hleast

theorem lruKey_ne_none {sessions : InsertionMap Text StoredEntry} (h : 0 < sessions.size) :
    SessionStore.lruKey sessions ≠ none := by
  rw [SessionStore.lruKey, foldl_scanLru, ne_eq, Option.map_eq_none_iff, List.argmin_eq_none]
  exact List.ne_nil_of_length_pos h

/-- What a save does about the room. -/
theorem makeRoom_cases {store : SessionStore} (hmax : 1 ≤ store.maxSessions) (sessionId : Text) :
    (store.makeRoom sessionId = store.sessions ∧
      (sessionId ∈ store.sessions.keys ∨ store.sessions.size < store.maxSessions)) ∨
    (sessionId ∉ store.sessions.keys ∧ store.maxSessions ≤ store.sessions.size ∧
      ∃ key entry, store.sessions.get key = some entry ∧
        (∀ other otherEntry, store.sessions.get other = some otherEntry →
          entry.lastAccessedAt ≤ otherEntry.lastAccessedAt) ∧
        store.makeRoom sessionId = store.sessions.erase key) := by
  rw [SessionStore.makeRoom]
  by_cases hfull : sessionId ∉ store.sessions.keys ∧ store.maxSessions ≤ store.sessions.size
  · rw [if_pos hfull]
    cases hkey : SessionStore.lruKey store.sessions with
    | none => exact absurd hkey (lruKey_ne_none (by omega))
    | some key =>
        obtain ⟨entry, hget, hleast⟩ := lruKey_eq_some hkey
        exact .inr ⟨hfull.1, hfull.2, key, entry, hget, hleast, rfl⟩
  · rw [if_neg hfull]
    refine .inl ⟨rfl, ?_⟩
    by_cases hhas : sessionId ∈ store.sessions.keys
    · exact .inl hhas
    · exact .inr (not_le.mp fun hle => hfull ⟨hhas, hle⟩)

section Recall

variable {store : SessionStore} {now : ℤ} {snapshot : SessionSnapshot} {other : Text}
  (hother : other ≠ snapshot.sessionId) (saved : Option (ℤ × SessionSnapshot))
include hother

/-- A save of another session leaves the last save. -/
theorem recall_save_kept
    (hget : (store.save now snapshot).sessions.get other = store.sessions.get other) :
    StoreRecord.recall other saved ⟨store, .save now snapshot, (none, store.save now snapshot)⟩ =
      saved := by
  have hkept : ¬ StoreRecord.Removes
      ⟨store, .save now snapshot, (none, store.save now snapshot)⟩ other := by
    rintro ⟨hbefore, hafter⟩
    obtain ⟨entry, hentry⟩ := InsertionMap.mem_keys_iff.mp hbefore
    exact hafter (InsertionMap.mem_keys_iff.mpr ⟨entry, hget.trans hentry⟩)
  rw [StoreRecord.recall]
  dsimp only
  rw [if_neg hother.symm, if_neg hkept]

/-- The eviction that a save makes ends the last save of the session. -/
theorem recall_save_removed (hbefore : other ∈ store.sessions.keys)
    (hget : (store.save now snapshot).sessions.get other = none) :
    StoreRecord.recall other saved ⟨store, .save now snapshot, (none, store.save now snapshot)⟩ =
      none := by
  have hremoved : StoreRecord.Removes
      ⟨store, .save now snapshot, (none, store.save now snapshot)⟩ other :=
    ⟨hbefore, InsertionMap.get_eq_none_iff.mp hget⟩
  rw [StoreRecord.recall]
  dsimp only
  rw [if_neg hother.symm, if_pos hremoved]

end Recall

/-! ### The invariant -/

/-- A save is stale at a time. -/
def expiredAt (ttlMs : Option ℤ) (savedAt now : ℤ) : Bool :=
  ttlMs.any fun ttl => savedAt + ttl < now

theorem expiredAt_mono {ttlMs : Option ℤ} {savedAt now later : ℤ} (h : now ≤ later)
    (hexpired : expiredAt ttlMs savedAt now = true) : expiredAt ttlMs savedAt later = true := by
  unfold expiredAt at *
  cases ttlMs with
  | none => cases hexpired
  | some ttl =>
      rw [Option.any_some, decide_eq_true_eq] at *
      omega

/-- **What holds after any calls.** -/
structure Kept (maxSessions : ℕ) (ttlMs : Option ℤ) (past : List StoreRecord)
    (store : SessionStore) : Prop where
  limit : store.maxSessions = maxSessions
  lifetime : store.ttlMs = ttlMs
  size : store.sessions.size ≤ maxSessions
  counter : store.accessCounter = (uses past).length
  stamped : ∀ sessionId entry, store.sessions.get sessionId = some entry →
    Stamped (uses past) sessionId entry.lastAccessedAt
  saved : ∀ sessionId entry, store.sessions.get sessionId = some entry →
    ∃ savedAt, lastSave sessionId past = some (savedAt, entry.snapshot) ∧
      entry.expiresAt = ttlMs.map (savedAt + ·)
  gone : ∀ sessionId savedAt snapshot, lastSave sessionId past = some (savedAt, snapshot) →
    store.sessions.get sessionId = none → ∃ r ∈ past, expiredAt ttlMs savedAt r.call.now = true

namespace Kept

variable {maxSessions : ℕ} {ttlMs : Option ℤ} {past : List StoreRecord} {store : SessionStore}

theorem expired_iff (h : Kept maxSessions ttlMs past store) {sessionId : Text}
    {entry : StoredEntry} (hget : store.sessions.get sessionId = some entry) (now : ℤ) :
    ∃ savedAt, lastSave sessionId past = some (savedAt, entry.snapshot) ∧
      entry.expiresAt = ttlMs.map (savedAt + ·) ∧
      (entry.expiresAt.any fun expiresAt => expiresAt < now) = expiredAt ttlMs savedAt now := by
  obtain ⟨savedAt, hlast, hexpires⟩ := h.saved sessionId entry hget
  refine ⟨savedAt, hlast, hexpires, ?_⟩
  rw [hexpires, expiredAt, Option.any_map]

/-- **One call.**  The session that it uses, if any, has its entry stamped; the entries of other
sessions stay as they are, or are removed for a reason. -/
theorem step (h : Kept maxSessions ttlMs past store) {r : StoreRecord} {store' : SessionStore}
    (hlimit : store'.maxSessions = store.maxSessions) (hlifetime : store'.ttlMs = store.ttlMs)
    (hsize : store'.sessions.size ≤ maxSessions)
    (hcounter : store'.accessCounter = store.accessCounter + r.use.toList.length)
    (hused : ∀ sessionId, r.use = some sessionId → ∃ entry savedAt,
      store'.sessions.get sessionId = some entry ∧
      entry.lastAccessedAt = store.accessCounter + 1 ∧
      r.recall sessionId (lastSave sessionId past) = some (savedAt, entry.snapshot) ∧
      entry.expiresAt = ttlMs.map (savedAt + ·))
    (hothers : ∀ other, r.use ≠ some other →
      (store'.sessions.get other = store.sessions.get other ∧
        r.recall other (lastSave other past) = lastSave other past) ∨
      (store'.sessions.get other = none ∧ ∀ savedAt snapshot,
        r.recall other (lastSave other past) = some (savedAt, snapshot) →
          expiredAt ttlMs savedAt r.call.now = true)) :
    Kept maxSessions ttlMs (past ++ [r]) store' where
  limit := hlimit.trans h.limit
  lifetime := hlifetime.trans h.lifetime
  size := hsize
  counter := by rw [uses_concat, hcounter, h.counter, List.length_append]
  stamped sessionId entry hget := by
    rw [uses_concat]
    -- The entry is stamped now, or it is as before.
    by_cases huse : r.use = some sessionId
    · obtain ⟨entry', -, hget', hstamp, -⟩ := hused sessionId huse
      rw [hget', Option.some.injEq] at hget
      rw [huse, ← hget, hstamp, h.counter]
      exact stamped_concat_self
    · rcases hothers sessionId huse with ⟨hsame, -⟩ | ⟨hnone, -⟩
      · exact (h.stamped sessionId entry (hsame ▸ hget)).append_toList huse
      · rw [hnone] at hget
        cases hget
  saved sessionId entry hget := by
    rw [lastSave_concat]
    by_cases huse : r.use = some sessionId
    · obtain ⟨entry', savedAt, hget', -, hrecall, hexpires⟩ := hused sessionId huse
      rw [hget', Option.some.injEq] at hget
      rw [← hget]
      exact ⟨savedAt, hrecall, hexpires⟩
    · rcases hothers sessionId huse with ⟨hsame, hrecall⟩ | ⟨hnone, -⟩
      · rw [hrecall]
        exact h.saved sessionId entry (hsame ▸ hget)
      · rw [hnone] at hget
        cases hget
  gone sessionId savedAt snapshot hlast hget := by
    rw [lastSave_concat] at hlast
    by_cases huse : r.use = some sessionId
    · obtain ⟨entry', -, hget', -⟩ := hused sessionId huse
      rw [hget'] at hget
      cases hget
    · rcases hothers sessionId huse with ⟨hsame, hrecall⟩ | ⟨-, hexpired⟩
      · rw [hrecall] at hlast
        obtain ⟨q, hq, hexpired⟩ := h.gone sessionId savedAt snapshot hlast (hsame ▸ hget)
        exact ⟨q, List.mem_append_left _ hq, hexpired⟩
      · exact ⟨r, List.mem_append_right _ (List.mem_singleton.mpr rfl),
          hexpired savedAt snapshot hlast⟩

/-- Nothing happens. -/
theorem nothing (h : Kept maxSessions ttlMs past store) {r : StoreRecord} (huse : r.use = none)
    (hrecall : ∀ sessionId, r.recall sessionId (lastSave sessionId past) =
      lastSave sessionId past) : Kept maxSessions ttlMs (past ++ [r]) store := by
  refine h.step rfl rfl h.size ?_ (fun sessionId hsome => ?_) fun other _ =>
    .inl ⟨rfl, hrecall other⟩
  · rw [huse]
    rfl
  · rw [huse] at hsome
    cases hsome

theorem save (h : Kept maxSessions ttlMs past store) (hmax : 1 ≤ maxSessions) (now : ℤ)
    (snapshot : SessionSnapshot) :
    Kept maxSessions ttlMs
      (past ++ [⟨store, .save now snapshot, (none, store.save now snapshot)⟩])
      (store.save now snapshot) := by
  have hgetself : (store.save now snapshot).sessions.get snapshot.sessionId = some
      { snapshot, expiresAt := store.ttlMs.map (now + ·)
        lastAccessedAt := store.accessCounter + 1 } := by
    rw [SessionStore.save, InsertionMap.get_set, if_pos rfl]
  have hlimit : 1 ≤ store.maxSessions := h.limit ▸ hmax
  refine h.step rfl rfl ?_ rfl (fun sessionId huse => ?_) fun other huse => ?_
  -- There was room, or an entry was evicted.
  · rw [SessionStore.save, InsertionMap.size_set]
    rcases makeRoom_cases hlimit snapshot.sessionId with
      ⟨hroom, hfits⟩ | ⟨hnew, -, key, entry, hget, -, hroom⟩
    · rw [hroom]
      split
      · exact h.size
      · rename_i hnew
        have hlt := hfits.resolve_left hnew
        rw [h.limit] at hlt
        exact hlt
    · have hkey : key ∈ store.sessions.keys := InsertionMap.mem_keys_iff.mpr ⟨entry, hget⟩
      have hgone : snapshot.sessionId ∉ (store.sessions.erase key).keys := by
        exact fun hmem => hnew (InsertionMap.mem_keys_erase hmem)
      rw [hroom, if_neg hgone, InsertionMap.size_erase hkey]
      exact h.size
  · cases huse
    refine ⟨_, now, hgetself, rfl, if_pos rfl, ?_⟩
    rw [h.lifetime]
  -- An entry that was evicted is not one that can be recalled any more.
  · have hother : other ≠ snapshot.sessionId := fun hsame => huse (congrArg some hsame.symm)
    have hget' : (store.save now snapshot).sessions.get other =
        (store.makeRoom snapshot.sessionId).get other := by
      rw [SessionStore.save, InsertionMap.get_set, if_neg hother]
    rcases makeRoom_cases hlimit snapshot.sessionId with
      ⟨hroom, -⟩ | ⟨-, -, key, entry, hget, -, hroom⟩
    · rw [hroom] at hget'
      exact .inl ⟨hget', recall_save_kept hother _ hget'⟩
    · rw [hroom, InsertionMap.get_erase] at hget'
      split at hget'
      · rename_i hevicted
        rw [← hevicted] at hget
        have hbefore := InsertionMap.mem_keys_iff.mpr ⟨entry, hget⟩
        refine .inr ⟨hget', fun savedAt snapshot' hrecall => ?_⟩
        rw [recall_save_removed hother _ hbefore hget'] at hrecall
        cases hrecall
      · exact .inl ⟨hget', recall_save_kept hother _ hget'⟩

theorem load (h : Kept maxSessions ttlMs past store) (now : ℤ) (sessionId : Text) :
    Kept maxSessions ttlMs
      (past ++ [⟨store, .load now sessionId, store.load now sessionId⟩])
      (store.load now sessionId).2 := by
  unfold SessionStore.load
  cases hget : store.sessions.get sessionId with
  | none => exact h.nothing rfl fun _ => rfl
  | some entry =>
      obtain ⟨savedAt, hlast, hexpires, hexpired⟩ := h.expired_iff hget now
      dsimp only
      rw [hexpired]
      cases hlate : expiredAt ttlMs savedAt now with
      | true =>
          rw [if_pos rfl]
          refine h.step rfl rfl ?_ rfl (fun _ huse => by cases huse) fun other _ => ?_
          · exact InsertionMap.size_erase_le.trans h.size
          · dsimp only
            rw [InsertionMap.get_erase]
            split
            · rename_i hother
              -- The entry that is removed is the expired one.
              refine .inr ⟨rfl, fun savedAt' snapshot hrecall => ?_⟩
              change lastSave other past = some (savedAt', snapshot) at hrecall
              rw [hother, hlast, Option.some.injEq, Prod.mk.injEq] at hrecall
              rw [← hrecall.1]
              exact hlate
            · exact .inl ⟨rfl, rfl⟩
      | false =>
          rw [if_neg (by decide)]
          refine h.step rfl rfl ?_ rfl (fun used huse => ?_) fun other huse => ?_
          · have hkey : sessionId ∈ store.sessions.keys := InsertionMap.mem_keys_iff.mpr ⟨_, hget⟩
            rw [InsertionMap.size_set, if_pos hkey]
            exact h.size
          · cases huse
            refine ⟨{ entry with lastAccessedAt := store.accessCounter + 1 }, savedAt, ?_, rfl,
              hlast, hexpires⟩
            rw [InsertionMap.get_set, if_pos rfl]
          · refine .inl ⟨?_, rfl⟩
            dsimp only
            rw [InsertionMap.get_set, if_neg fun hother => huse (congrArg some hother.symm)]

theorem delete (h : Kept maxSessions ttlMs past store) (now : ℤ) (sessionId : Text) :
    Kept maxSessions ttlMs
      (past ++ [⟨store, .delete now sessionId, (none, store.delete sessionId)⟩])
      (store.delete sessionId) := by
  refine h.step rfl rfl ?_ rfl (fun _ huse => by cases huse) fun other _ => ?_
  · exact InsertionMap.size_erase_le.trans h.size
  · rw [SessionStore.delete, InsertionMap.get_erase, StoreRecord.recall]
    dsimp only
    by_cases hother : other = sessionId
    · rw [if_pos hother, if_pos hother.symm]
      exact .inr ⟨rfl, fun _ _ h => by cases h⟩
    · rw [if_neg hother, if_neg fun hsame => hother hsame.symm]
      exact .inl ⟨rfl, rfl⟩

theorem act (h : Kept maxSessions ttlMs past store) (hmax : 1 ≤ maxSessions) (call : StoreCall) :
    Kept maxSessions ttlMs (past ++ [⟨store, call, call.act store⟩]) (call.act store).2 := by
  cases call with
  | save now snapshot => exact h.save hmax now snapshot
  | load now sessionId => exact h.load now sessionId
  | delete now sessionId => exact h.delete now sessionId

/-- What a load returns, by the history. -/
theorem load_eq (h : Kept maxSessions ttlMs past store) {now : ℤ}
    (hclock : ∀ r ∈ past, r.call.now ≤ now) (sessionId : Text) :
    (store.load now sessionId).1 = (lastSave sessionId past).bind fun saved =>
      if expiredAt ttlMs saved.1 now then none else some saved.2 := by
  rw [SessionStore.load]
  cases hget : store.sessions.get sessionId with
  | none =>
      cases hlast : lastSave sessionId past with
      | none => rfl
      | some saved =>
          obtain ⟨r, hr, hexpired⟩ := h.gone sessionId saved.1 saved.2 hlast hget
          -- The clock has not gone back since.
          have hlate := expiredAt_mono (hclock r hr) hexpired
          rw [Option.bind_some, if_pos hlate]
  | some entry =>
      obtain ⟨savedAt, hlast, -, hexpired⟩ := h.expired_iff hget now
      dsimp only
      rw [hlast, hexpired, Option.bind_some]
      cases expiredAt ttlMs savedAt now with
      | true => rfl
      | false => rfl

end Kept

theorem kept_run {maxSessions : ℕ} (hmax : 1 ≤ maxSessions) (ttlMs : Option ℤ)
    (calls : List StoreCall) :
    Kept maxSessions ttlMs (storeHistory maxSessions ttlMs calls)
      (final StoreCall.act Prod.snd { maxSessions, ttlMs } calls) := by
  refine history_induction (J := Kept maxSessions ttlMs) (G := fun _ => True)
    (T := fun _ _ => True) ?_ (fun past store call h _ _ => h.act hmax call) calls
    (fun _ _ => trivial) (List.pairwise_of_forall fun _ _ => trivial)
  exact ⟨rfl, rfl, Nat.zero_le _, rfl, fun _ _ h => (by cases h), fun _ _ h => (by cases h),
    fun _ _ _ h => (by cases h)⟩

/-! ### The least recently used session -/

/-- **Why a session disappears from the store.** -/
inductive Cause (ttlMs : Option ℤ) (past : List StoreRecord) (r : StoreRecord)
    (sessionId : Text) : Prop where
  | deleted (now : ℤ) (hcall : r.call = .delete now sessionId)
  | expired (now savedAt : ℤ) (snapshot : SessionSnapshot) (hcall : r.call = .load now sessionId)
      (hlast : lastSave sessionId past = some (savedAt, snapshot))
      (hexpired : expiredAt ttlMs savedAt now = true)
  | evicted (now : ℤ) (snapshot : SessionSnapshot) (hcall : r.call = .save now snapshot)
      (hnew : snapshot.sessionId ∉ r.before.sessions.keys)
      (hfull : r.before.sessions.size = r.before.maxSessions)
      (holdest : ∀ other ∈ r.before.sessions.keys, other ≠ sessionId →
        UsedAfter (uses past) sessionId other)

namespace Kept

variable {maxSessions : ℕ} {ttlMs : Option ℤ} {past : List StoreRecord} {store : SessionStore}

/-- **The least stamp is that of the session that was used longest ago.** -/
theorem oldest (h : Kept maxSessions ttlMs past store) {key : Text} {entry : StoredEntry}
    (hget : store.sessions.get key = some entry)
    (hleast : ∀ other otherEntry, store.sessions.get other = some otherEntry →
      entry.lastAccessedAt ≤ otherEntry.lastAccessedAt) :
    ∀ other ∈ store.sessions.keys, other ≠ key → UsedAfter (uses past) key other := by
  intro other hother hne
  obtain ⟨otherEntry, hotherEntry⟩ := InsertionMap.mem_keys_iff.mp hother
  have hkey := h.stamped key entry hget
  have hstamp := h.stamped other otherEntry hotherEntry
  have hle := hleast other otherEntry hotherEntry
  refine hkey.usedAfter hstamp (lt_of_le_of_ne hle fun hsame => ?_)
  rw [← hsame] at hstamp
  exact hne (hstamp.unique hkey)

/-- Only the evicted session disappears in a save. -/
theorem cause_save (h : Kept maxSessions ttlMs past store) (hmax : 1 ≤ maxSessions) {now : ℤ}
    {snapshot : SessionSnapshot} {sessionId : Text} (hbefore : sessionId ∈ store.sessions.keys)
    (hafter : (store.save now snapshot).sessions.get sessionId = none) :
    Cause ttlMs past ⟨store, .save now snapshot, (none, store.save now snapshot)⟩ sessionId := by
  obtain ⟨entry, hentry⟩ := InsertionMap.mem_keys_iff.mp hbefore
  rw [SessionStore.save, InsertionMap.get_set] at hafter
  split at hafter
  · cases hafter
  · rcases makeRoom_cases (h.limit ▸ hmax) snapshot.sessionId with
      ⟨hroom, -⟩ | ⟨hnew, hfull, key, least, hget, hleast, hroom⟩
    · rw [hroom, hentry] at hafter
      cases hafter
    · rw [hroom, InsertionMap.get_erase] at hafter
      split at hafter
      · rename_i hevicted
        rw [hevicted]
        refine .evicted now snapshot rfl hnew (le_antisymm ?_ hfull) (h.oldest hget hleast)
        rw [h.limit]
        exact h.size
      · rw [hentry] at hafter
        cases hafter

theorem cause (h : Kept maxSessions ttlMs past store) (hmax : 1 ≤ maxSessions)
    (call : StoreCall) (sessionId : Text)
    (hremoved : StoreRecord.Removes ⟨store, call, call.act store⟩ sessionId) :
    Cause ttlMs past ⟨store, call, call.act store⟩ sessionId := by
  obtain ⟨hbefore, hafter⟩ := hremoved
  rw [← InsertionMap.get_eq_none_iff] at hafter
  obtain ⟨entry, hentry⟩ := InsertionMap.mem_keys_iff.mp hbefore
  -- A load removes the entry that it finds expired, and only that one.
  cases call with
  | save now snapshot => exact h.cause_save hmax hbefore hafter
  | load now loaded =>
      change (store.load now loaded).2.sessions.get sessionId = none at hafter
      rw [SessionStore.load] at hafter
      cases hget : store.sessions.get loaded with
      | none =>
          rw [hget, hentry] at hafter
          cases hafter
      | some found =>
          obtain ⟨savedAt, hlast, -, hexpired⟩ := h.expired_iff hget now
          rw [hget] at hafter
          dsimp only at hafter
          rw [hexpired] at hafter
          cases hlate : expiredAt ttlMs savedAt now with
          | true =>
              rw [hlate, if_pos rfl, InsertionMap.get_erase] at hafter
              split at hafter
              · rename_i hsame
                rw [hsame]
                exact .expired now savedAt found.snapshot rfl hlast hlate
              · rw [hentry] at hafter
                cases hafter
          | false =>
              rw [hlate, if_neg (by decide), InsertionMap.get_set, hentry] at hafter
              split at hafter <;> cases hafter
  | delete now deleted =>
      change (store.delete deleted).sessions.get sessionId = none at hafter
      rw [SessionStore.delete, InsertionMap.get_erase] at hafter
      split at hafter
      · rename_i hsame
        rw [hsame]
        exact .deleted now rfl
      · rw [hentry] at hafter
        cases hafter

end Kept

/-- **The store is a map of the least recently used sessions.**  It never holds more than it
may; a session disappears when it is deleted, when it is loaded after it has expired, or when a
new one is saved into a full store and it is the one that has not been used for the longest
time; and a load returns what was saved last, unless that was deleted or evicted, or has
expired. -/
theorem session_store_is_lru {maxSessions : ℕ} (hmax : 1 ≤ maxSessions) (ttlMs : Option ℤ)
    {calls : List StoreCall} (hclock : calls.Pairwise fun c d => c.now ≤ d.now)
    {past later : List StoreRecord} {r : StoreRecord}
    (hrun : storeHistory maxSessions ttlMs calls = past ++ r :: later) :
    r.before.sessions.size ≤ maxSessions ∧ r.result.2.sessions.size ≤ maxSessions ∧
    (∀ sessionId, r.Removes sessionId → Cause ttlMs past r sessionId) ∧
    ∀ now sessionId, r.call = .load now sessionId →
      r.result.1 = (lastSave sessionId past).bind fun saved =>
        if expiredAt ttlMs saved.1 now then none else some saved.2 := by
  obtain ⟨before, after, rfl, rfl, hr⟩ := history_split hrun
  have hkept := kept_run hmax ttlMs before
  have hpast : ∀ q ∈ storeHistory maxSessions ttlMs before, q.call.now ≤ r.call.now := by
    intro q hq
    rw [List.pairwise_append] at hclock
    exact hclock.2.2 q.call (call_mem_of_mem_history hq) r.call List.mem_cons_self
  rw [hr] at hpast ⊢
  refine ⟨hkept.size, (hkept.act hmax r.call).size,
    fun sessionId hremoved => hkept.cause hmax r.call sessionId hremoved,
    fun now sessionId hcall => ?_⟩
  dsimp only at hcall hpast ⊢
  rw [hcall] at hpast ⊢
  exact hkept.load_eq hpast sessionId

/-! ### Examples -/

def storedSnapshot (sessionId : Text) : SessionSnapshot where
  version := utf16 "0.3"
  sessionId := sessionId
  bufferWindowMs := 1000
  streams := []

/-- Three sessions are saved into a store for two, where saves expire after ten milliseconds. -/
def storeCalls : List StoreCall :=
  [.save 0 (storedSnapshot (utf16 "a")), .save 1 (storedSnapshot (utf16 "b")),
    .load 2 (utf16 "a"), .save 3 (storedSnapshot (utf16 "c")), .load 11 (utf16 "a")]

/-- The first session is found, and so the second one gives way to the third; then the first one
has expired. -/
theorem session_store_is_lru_example :
    ∃ found evicting expiring later,
      storeHistory 2 (some 10) storeCalls =
        (storeHistory 2 (some 10) storeCalls).take 2 ++ found :: evicting :: expiring :: later ∧
      found.result.1 = some (storedSnapshot (utf16 "a")) ∧
      evicting.before.sessions.size ≤ 2 ∧ evicting.result.2.sessions.size ≤ 2 ∧
      Cause (some 10) ((storeHistory 2 (some 10) storeCalls).take 3) evicting (utf16 "b") ∧
      Cause (some 10) ((storeHistory 2 (some 10) storeCalls).take 4) expiring (utf16 "a") ∧
      expiring.result.1 = none := by
  have hclock : storeCalls.Pairwise fun c d => c.now ≤ d.now := by decide
  refine ⟨_, _, _, [], rfl, ?_⟩
  obtain ⟨-, -, -, hfound⟩ := @session_store_is_lru 2 (by decide) (some 10) storeCalls hclock
    ((storeHistory 2 (some 10) storeCalls).take 2) _ _ rfl
  obtain ⟨hbefore, hafter, hevicted, -⟩ := @session_store_is_lru 2 (by decide) (some 10) storeCalls
    hclock ((storeHistory 2 (some 10) storeCalls).take 3) _ _ rfl
  obtain ⟨-, -, hexpired, hload⟩ := @session_store_is_lru 2 (by decide) (some 10) storeCalls hclock
    ((storeHistory 2 (some 10) storeCalls).take 4) _ _ rfl
  exact ⟨(hfound 2 (utf16 "a") rfl).trans rfl, hbefore, hafter,
    hevicted (utf16 "b") ⟨by decide, by decide⟩, hexpired (utf16 "a") ⟨by decide, by decide⟩,
    (hload 11 (utf16 "a") rfl).trans rfl⟩

end CulpeoStream.Typescript
