import Bibliography.Main
import Bibliography.Proofs.Match.Absence
import Bibliography.Proofs.Match.Occurrence
import Bibliography.Proofs.Query.Shape
import Bibliography.Proofs.Search.OwnText
import Bibliography.Proofs.Search.Restriction
import Bibliography.Proofs.Search.Score
import Bibliography.Proofs.Search.FileOrder
import Bibliography.Proofs.Output.Pages
import Bibliography.Proofs.Log.History
import Bibliography.Proofs.Text.SearchForm
import Bibliography.Proofs.Order.Refusal
import Bibliography.Proofs.Library.Saving
import Bibliography.Proofs.Settings.Accepted
import Bibliography.Proofs.Settings.Fallbacks
import Bibliography.Proofs.Command.Ending
import Bibliography.Proofs.Json.Paths
import Bibliography.Proofs.Order.Missing
import Bibliography.Proofs.Log.Routing
import Bibliography.Proofs.Output.Listing
import Bibliography.Proofs.Order.LastChange
import Bibliography.Proofs.Order.FirstAuthor
import Bibliography.Proofs.View.Year
import Bibliography.Proofs.Text.Acronym
import Bibliography.Proofs.View.Concatenation
