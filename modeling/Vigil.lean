import Vigil.Main
import Vigil.Client.Call
import Vigil.Reporter.Routine
import Vigil.Settings.Overrides
import Vigil.Proofs.Channel.Calls
import Vigil.Proofs.Channel.ConnectPerCall
import Vigil.Proofs.Client.Boundary
import Vigil.Proofs.Client.Flag
import Vigil.Proofs.Protocol.Listing
import Vigil.Proofs.Protocol.Closed
import Vigil.Proofs.Reporter.OrderedSet
import Vigil.Proofs.Reporter.OnTime
import Vigil.Proofs.Service.Handles
import Vigil.Proofs.Client.Reply
import Vigil.Proofs.Client.Duplicate
import Vigil.Proofs.Client.Observer
import Vigil.Proofs.Settings.Loading
import Vigil.Proofs.Console.Commands
import Vigil.Proofs.Client.OneExchange
import Vigil.Proofs.Client.Indifferent
import Vigil.Proofs.Client.Answers
import Vigil.Proofs.Client.Nested
import Vigil.Proofs.Client.Heartbeats
import Vigil.Proofs.Client.SelfId
import Vigil.Proofs.Service.Polling
import Vigil.Proofs.Service.Acceptance
import Vigil.Proofs.Console.Book
import Vigil.Proofs.Console.Dialogue
import Vigil.Proofs.Log.Elsewhere
import Vigil.Proofs.Number.Nearest
import Vigil.Proofs.Settings.Saving
import Vigil.Proofs.Settings.Storing
import Vigil.Proofs.Settings.Reach
import Vigil.Proofs.Protocol.Alike
import Vigil.Proofs.Console.Shown
import Vigil.Proofs.Channel.Delivery
import Vigil.Proofs.Channel.Retry
import Vigil.Proofs.Channel.Longest
import Vigil.Proofs.Service.Waiting
import Vigil.Proofs.Client.Setup
import Vigil.Proofs.Json.Given
import Vigil.Proofs.Console.CommandLine
import Vigil.Proofs.Service.Removal
import Vigil.Proofs.Console.AddArgs
import Vigil.Proofs.Protocol.Defaults
import Vigil.Proofs.Client.DisplayName
import Vigil.Proofs.Console.Setup
import Vigil.Proofs.Console.Verbose
import Vigil.Proofs.Channel.Word
