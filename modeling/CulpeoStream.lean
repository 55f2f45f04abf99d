import CulpeoStream.Lib.Resumption
import CulpeoStream.Message.RoundTrip
import CulpeoStream.Message.Numerals
import CulpeoStream.Message.ContentType
import CulpeoStream.Message.CApi
import CulpeoStream.Message.Decoded
import CulpeoStream.Session.AuthGate
import CulpeoStream.Session.Closing
import CulpeoStream.Session.Challenges
import CulpeoStream.Session.Expiry
import CulpeoStream.Session.Usability
import CulpeoStream.Session.OutboundOrder
import CulpeoStream.Duplex
import CulpeoStream.Dotnet.Exclusivity
import CulpeoStream.Dotnet.Totality
import CulpeoStream.Dotnet.Resume
import CulpeoStream.Lib.Turns
import CulpeoStream.Lib.Utf8
import CulpeoStream.IntegerHeaders
import CulpeoStream.RateLimits
import CulpeoStream.Typescript.Resume
import CulpeoStream.Typescript.Agreement
import CulpeoStream.Http2.Delivery
import CulpeoStream.Http2.Sending
import CulpeoStream.Envelopes
import CulpeoStream.Typescript.Http2Frames
import CulpeoStream.Http2.StreamTable
import CulpeoStream.Session.FrameSizing
import CulpeoStream.Declarations
import CulpeoStream.ContentTypes
import CulpeoStream.Increments
import CulpeoStream.Lib.FixedWindow
import CulpeoStream.Session.Pings
import CulpeoStream.PingReplies
import CulpeoStream.Lib.EventLoop
import CulpeoStream.Typescript.Concurrency
import CulpeoStream.Typescript.Finality
import CulpeoStream.Typescript.MediaFrames
import CulpeoStream.Lib.Challenges
import CulpeoStream.Typescript.AuthChallenges
import CulpeoStream.Dotnet.AuthChallenges
import CulpeoStream.AuthChallenges
import CulpeoStream.Typescript.Contracts
import CulpeoStream.Typescript.StreamClient
import CulpeoStream.Typescript.Disconnect
import CulpeoStream.Typescript.ConnectPromise
import CulpeoStream.Lib.Reactions
import CulpeoStream.Typescript.ServerConnection
import CulpeoStream.Typescript.ServerLifecycle
import CulpeoStream.Session.Validation
import CulpeoStream.Session.ContentTypeMatching
import CulpeoStream.Session.MediaAcceptance
import CulpeoStream.Session.EventNames
import CulpeoStream.Session.FailedSends
import CulpeoStream.Session.Handshake
import CulpeoStream.BufferWindows
import CulpeoStream.Session.Registration
import CulpeoStream.Session.ExactResumption
import CulpeoStream.Typescript.SessionStore
import CulpeoStream.Lib.Async
import CulpeoStream.Dotnet.StreamClient
import CulpeoStream.Dotnet.StreamClientCalls
import CulpeoStream.Dotnet.ServerClose
import CulpeoStream.Dotnet.ClientHandshake
import CulpeoStream.Dotnet.SendCursor
import CulpeoStream.Message.PcmGrammar
import CulpeoStream.Lib.CopyLog
import CulpeoStream.Message.CSerialize
import CulpeoStream.Dotnet.ContentTypeMatching
import CulpeoStream.Dotnet.ParseFailures
import CulpeoStream.Dotnet.ResumedStreams
import CulpeoStream.Dotnet.MediaAtomicity
import CulpeoStream.Lib.WindowLog
import CulpeoStream.Dotnet.ResumeWindow
import CulpeoStream.DecimalReaders
import CulpeoStream.Lib.Utf8Cuts
import CulpeoStream.WsTransport
import CulpeoStream.Typescript.FreshInit
import CulpeoStream.Typescript.FailedSends
import CulpeoStream.Typescript.FaithfulAcks
import CulpeoStream.Dotnet.ClientMethods
import CulpeoStream.Lib.Watch
import CulpeoStream.Dotnet.ReceiveOrder
import CulpeoStream.Dotnet.ServerSends
import CulpeoStream.Wasm.Loader
import CulpeoStream.Wasm.Index
import CulpeoStream.Typescript.Bodies
import CulpeoStream.Wasm.Backend
import CulpeoStream.Lib.Monitor
import CulpeoStream.Lib.Triples
import CulpeoStream.Dotnet.AdapterLifecycle
import CulpeoStream.Dotnet.AdapterMedia
import CulpeoStream.Http2.Link
