import LlamaGateway.Calendar
import LlamaGateway.Call.Building
import LlamaGateway.Call.Messages
import LlamaGateway.CommandLine.Arguments
import LlamaGateway.CommandLine.Run
import LlamaGateway.Config.Duration
import LlamaGateway.Config.Load
import LlamaGateway.Config.Placeholder
import LlamaGateway.Context.Scope
import LlamaGateway.Conversation.Message
import LlamaGateway.Conversation.Tool
import LlamaGateway.Error
import LlamaGateway.Floating.Basic
import LlamaGateway.Gateway
import LlamaGateway.Json.Printer
import LlamaGateway.Json.Reader
import LlamaGateway.Json.Token
import LlamaGateway.Json.Value
import LlamaGateway.Main
import LlamaGateway.Model.AliasTable
import LlamaGateway.Network.Session
import LlamaGateway.Prompt.Dialog
import LlamaGateway.Prompt.Rendering
import LlamaGateway.Proofs.Call.Conversion
import LlamaGateway.Proofs.Call.Fetching
import LlamaGateway.Proofs.Call.Payload
import LlamaGateway.Proofs.Call.Refusal
import LlamaGateway.Proofs.Call.ResultTies
import LlamaGateway.Proofs.CommandLine.CompletionOutput
import LlamaGateway.Proofs.CommandLine.ExitStatus
import LlamaGateway.Proofs.Config.LineExpansion
import LlamaGateway.Proofs.Config.PlaceholderForm
import LlamaGateway.Proofs.Config.TextExpansion
import LlamaGateway.Proofs.Context.KeyOrigin
import LlamaGateway.Proofs.Conversation.StableForms
import LlamaGateway.Proofs.Floating.Rounding
import LlamaGateway.Proofs.Gateway.Course
import LlamaGateway.Proofs.Gateway.Effects
import LlamaGateway.Proofs.Gateway.LogProbs
import LlamaGateway.Proofs.Gateway.WireForms
import LlamaGateway.Proofs.Json.Building
import LlamaGateway.Proofs.Json.Fields
import LlamaGateway.Proofs.Json.NarrowNumbers
import LlamaGateway.Proofs.Json.NumberText
import LlamaGateway.Proofs.Json.ObjectText
import LlamaGateway.Proofs.Json.Records
import LlamaGateway.Proofs.Json.Scanning
import LlamaGateway.Proofs.Json.Stability
import LlamaGateway.Proofs.Model.InsertionOrder
import LlamaGateway.Proofs.Network.Session
import LlamaGateway.Proofs.Prompt.CallLists
import LlamaGateway.Proofs.Prompt.DescribedTools
import LlamaGateway.Proofs.Prompt.DialogReading
import LlamaGateway.Proofs.Prompt.KeptMessages
import LlamaGateway.Proofs.Prompt.ToolDocuments
import LlamaGateway.Proofs.Provider.Posting
import LlamaGateway.Proofs.Reply.BuiltinArgument
import LlamaGateway.Proofs.Reply.BuiltinCall
import LlamaGateway.Proofs.Reply.CallForms
import LlamaGateway.Proofs.Reply.CustomCall
import LlamaGateway.Proofs.Reply.FirstCall
import LlamaGateway.Proofs.Reply.Frame
import LlamaGateway.Proofs.Reply.ObjectAnswer
import LlamaGateway.Proofs.Response.AnnouncedCall
import LlamaGateway.Proofs.Response.ChatProgress
import LlamaGateway.Proofs.Response.ChatProtocol
import LlamaGateway.Proofs.Response.ChatResult
import LlamaGateway.Proofs.Response.ChatTranscript
import LlamaGateway.Proofs.Response.CompletionAgreement
import LlamaGateway.Proofs.Response.Consumption
import LlamaGateway.Proofs.Response.Interruption
import LlamaGateway.Proofs.Response.StreamAgreement
import LlamaGateway.Proofs.Response.StreamReading
import LlamaGateway.Proofs.Text.FirstPlace
import LlamaGateway.Proofs.Text.Trimming
import LlamaGateway.Provider.Body
import LlamaGateway.Provider.Client
import LlamaGateway.Reply.Decoding
import LlamaGateway.Request.Generation
import LlamaGateway.Response.Event
import LlamaGateway.Response.Stream
import LlamaGateway.Text.Basic
import LlamaGateway.Text.Bytes
import LlamaGateway.Text.NormalForm
import LlamaGateway.Text.Visible
import LlamaGateway.Text.WordChar
import LlamaGateway.Toml.Parser
import LlamaGateway.Toml.Scalar
import LlamaGateway.Toml.Tree
import LlamaGateway.Url.Domain
import LlamaGateway.Url.DomainTable
import LlamaGateway.Url.Host
import LlamaGateway.Url.Parser
