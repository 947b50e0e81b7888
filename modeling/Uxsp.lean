import Uxsp.Lib.Run
import Uxsp.Lib.SlidingWindow
import Uxsp.Lib.LengthPrefix
import Uxsp.Lib.TtlStore
import Uxsp.Lib.Numbered
import Uxsp.Lib.Slices
import Uxsp.Lib.Delimited
import Uxsp.Lib.Assoc
import Uxsp.Python.Str
import Uxsp.Python.Value
import Uxsp.Python.Uuid
import Uxsp.Python.Json
import Uxsp.Python.JsonText
import Uxsp.Crypto.Platform
import Uxsp.Crypto.Symmetric
import Uxsp.Crypto.Hybrid
import Uxsp.Crypto.Seal
import Uxsp.Crypto.Transparent
import Uxsp.Core.Identity
import Uxsp.Core.Nonce
import Uxsp.Core.Session
import Uxsp.Core.SessionSteps
import Uxsp.Core.SessionWindow
import Uxsp.Core.SessionReplay
import Uxsp.Core.SessionThreads
import Uxsp.Core.SessionWipe
import Uxsp.Core.Handshake
import Uxsp.Core.HandshakeSteps
import Uxsp.Core.HandshakeHonest
import Uxsp.Core.HandshakeAuth
import Uxsp.Core.SessionLink
import Uxsp.Core.GuardedHandshake
import Uxsp.Core.GuardedAgreement
import Uxsp.Core.Live
import Uxsp.Core.LiveSteps
import Uxsp.Core.LiveStream
import Uxsp.Core.Envelope
import Uxsp.Core.Replay
import Uxsp.Core.IdentitySeal
import Uxsp.Core.EnvelopeOrigin
import Uxsp.Core.Chunking
import Uxsp.Core.Payload
import Uxsp.Core.Signing
import Uxsp.Core.SigningDomains
import Uxsp.Core.RevocationList
import Uxsp.Core.TrustStore
import Uxsp.Core.CardTrust
import Uxsp.Core.TrustRuns
import Uxsp.Core.RevocationScope
import Uxsp.Secure.Package
import Uxsp.Secure.Engine
import Uxsp.Secure.EngineSteps
import Uxsp.Secure.Authenticity
import Uxsp.Secure.ChunkIntegrity
import Uxsp.Secure.Delivery
import Uxsp.Secure.Stream
import Uxsp.Secure.StreamSteps
import Uxsp.Secure.StreamRoundTrip
import Uxsp.Secure.StreamSplice
import Uxsp.Storage.AsyncNonceStore
import Uxsp.Aio.Engine
import Uxsp.Aio.Stream
import Uxsp.Aio.AtMostOnce
import Uxsp.Aio.Agreement
import Uxsp.Lib.Versions
import Uxsp.Python.Path
import Uxsp.Storage.SlidingWindowNonceStore
import Uxsp.Storage.TieredNonceStore
import Uxsp.Secure.Receivers
import Uxsp.Secure.Downloads
import Uxsp.Secure.Senders
import Uxsp.Secure.TypedMessages
import Uxsp.Client.SyncClient
import Uxsp.Client.Strict
import Uxsp.Contrib.FastAPI
import Uxsp.Contrib.Protected
import Uxsp.Storage.KeyStore
import Uxsp.Storage.CachingKeyStore
import Uxsp.Core.CardDict
import Uxsp.Storage.FileKeyStore
import Uxsp.Storage.FailedWrites
import Uxsp.Storage.SharedFile
import Uxsp.Js.Value
import Uxsp.Js.Crypto
import Uxsp.Js.Session
import Uxsp.Js.Handshake
import Uxsp.Js.Transparent
import Uxsp.Js.BothSignatures
import Uxsp.Js.CrossHandshake
import Uxsp.Js.MemoryNonceStore
import Uxsp.Lib.Recent
import Uxsp.Core.LiveReplay
import Uxsp.Js.Live
import Uxsp.Js.LiveReplay
import Uxsp.Js.SessionReject
import Uxsp.Js.Wire
import Uxsp.Js.SessionSteps
import Uxsp.Js.CrossSession
import Uxsp.Js.CrossLive
import Uxsp.Js.Seal
import Uxsp.Js.SealReplay
import Uxsp.Js.TrustAnchor
import Uxsp.Js.CrossTrust
import Uxsp.Js.CrossEnvelope
import Uxsp.Js.CrossReceived
import Uxsp.Js.CrossOpened
import Uxsp.Js.Json
import Uxsp.Js.Chunking
import Uxsp.Js.Payload
import Uxsp.Js.SealOpen
import Uxsp.Js.Client
import Uxsp.Js.ChunkIntegrity
import Uxsp.Lib.FixedWindow
import Uxsp.Lib.SlidingLog
import Uxsp.Lib.Table
import Uxsp.Core.RateLimit
import Uxsp.Core.RateLimitFixed
import Uxsp.Core.RateLimitSliding
import Uxsp.Core.NonceRuns
import Uxsp.Core.ChunkStream
import Uxsp.Transport.Http
import Uxsp.Secure.EnvelopeSize
import Uxsp.Js.SessionCalls
import Uxsp.Lib.StableSort
import Uxsp.Js.RevocationList
import Uxsp.Lib.TokenBucket
import Uxsp.Js.RateLimit
import Uxsp.Lib.Redis
import Uxsp.Core.RedisSliding
import Uxsp.Core.RedisFixed
import Uxsp.Client.Url
import Uxsp.Client.Peers
import Uxsp.Secure.PackageText
import Uxsp.Client.Bodies
import Uxsp.Js.Hex
import Uxsp.Core.LiveLimits
import Uxsp.Core.PayloadRoundTrip
import Uxsp.Core.EnvelopeErrors
import Uxsp.Core.HandshakeErrors
import Uxsp.Transport.WireErrors
import Uxsp.Core.IdentityTamper
import Uxsp.Transport.WebSocket
import Uxsp.Transport.WebSocketSteps
import Uxsp.Transport.WebSocketClose
import Uxsp.Lib.Lane
import Uxsp.Transport.WebSocketPeers
import Uxsp.Transport.WebSocketResume
import Uxsp.Lib.Transactions
import Uxsp.Storage.PostgresNonceStore
import Uxsp.Storage.PostgresRuns
import Uxsp.Contrib.Flask
import Uxsp.Contrib.Django
import Uxsp.Contrib.Frameworks
import Uxsp.Contrib.ProtectedViews
import Uxsp.Lib.TwoRuns
import Uxsp.Secure.RejectedPackages
import Uxsp.Js.Reconnecting
import Uxsp.Js.ReconnectingKept
import Uxsp.Lib.Custody
import Uxsp.Js.Reconnecting
import Uxsp.Js.ReconnectingKept
import Uxsp.Client.SharedCache
