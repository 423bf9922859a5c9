import ChatFlow.Files.Directory
import ChatFlow.Json.Session
import ChatFlow.Json.Settings
import ChatFlow.Main
import ChatFlow.Proofs.Chat.Numbers
import ChatFlow.Proofs.Chat.Offers
import ChatFlow.Proofs.Chat.Rereads
import ChatFlow.Proofs.Diagnostic.Listing
import ChatFlow.Proofs.Diagnostic.Presses
import ChatFlow.Proofs.Diagnostic.Search
import ChatFlow.Proofs.Diagnostic.Targets
import ChatFlow.Proofs.Json.Session
import ChatFlow.Proofs.Preview.Edits
import ChatFlow.Proofs.Session.Confirmation
import ChatFlow.Proofs.Session.Handoff
import ChatFlow.Proofs.Session.History
import ChatFlow.Proofs.Session.Log
import ChatFlow.Proofs.Session.Naming
import ChatFlow.Proofs.Session.Visits
import ChatFlow.Proofs.Settings.Loaded
import ChatFlow.Proofs.Settings.Variables
import ChatFlow.Proofs.Source.Layout
import ChatFlow.Proofs.Source.Messages
import ChatFlow.Proofs.Source.Modularity
import ChatFlow.Proofs.Source.Notes
import ChatFlow.Proofs.Source.Numbering
import ChatFlow.Proofs.Source.Skipping
