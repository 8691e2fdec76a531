import CallBridge.Expose.Closure
import CallBridge.Log.Service
import CallBridge.Session.Step
import CallBridge.Proofs.Session.Outbound
import CallBridge.Proofs.Json.Numeral
import CallBridge.Proofs.Json.Quoted
import CallBridge.Proofs.Json.RoundTrip
import CallBridge.Proofs.Message.RoundTrip
import CallBridge.Proofs.Bridge.Host
import CallBridge.Proofs.Bridge.Table
import CallBridge.Proofs.Bridge.Turn
import CallBridge.Proofs.Session.Turns
import CallBridge.Proofs.Bridge.Token
import CallBridge.Proofs.Bridge.Course
import CallBridge.Proofs.Bridge.Follow
import CallBridge.Proofs.Session.Orderly
import CallBridge.Proofs.Session.Pending
import CallBridge.Proofs.Session.Delivery
import CallBridge.Proofs.Duplex.Wire
import CallBridge.Proofs.Duplex.Exchange
import CallBridge.Proofs.Duplex.Books
import CallBridge.Proofs.Duplex.Agreement
import CallBridge.Proofs.Bridge.Code
import CallBridge.Proofs.Bridge.Lockstep
import CallBridge.Proofs.Bridge.Wired
import CallBridge.Proofs.Bridge.Serve
import CallBridge.Proofs.Session.Lockstep
import CallBridge.Proofs.Bridge.Settle
import CallBridge.Proofs.Session.Commute
import CallBridge.Proofs.Bridge.Opening
import CallBridge.Proofs.Session.Opening
import CallBridge.Proofs.Message.Grammar
import CallBridge.Proofs.Session.Paths
import CallBridge.Proofs.Json.Literal
import CallBridge.Proofs.Bridge.Registry
import CallBridge.Proofs.Bridge.Attend
import CallBridge.Proofs.Session.Reply
import CallBridge.Proofs.Expose.Locals
import CallBridge.Proofs.Session.Refused
import CallBridge.Proofs.Bridge.Expiry
import CallBridge.Proofs.Session.Timeout
import CallBridge.Proofs.Json.Image
import CallBridge.Proofs.Message.Reencode
import CallBridge.Proofs.Argument.Exact
import CallBridge.Proofs.Expose.Invoke
import CallBridge.Proofs.Json.Grammar
import CallBridge.Proofs.Config.Skip
import CallBridge.Proofs.Config.Setting
import CallBridge.Proofs.Config.Document
import CallBridge.Proofs.Config.RoundTrip
import CallBridge.Proofs.Message.Errors
import CallBridge.Proofs.Session.Tokens
import CallBridge.Proofs.Log.Delivery
import CallBridge.Proofs.Bridge.Chronicle
import CallBridge.Proofs.Session.Registry
import CallBridge.Proofs.Config.Timeout
