import VerbDoc.Configuration
import VerbDoc.Endpoint.Setup
import VerbDoc.Inspection
import VerbDoc.Message
import VerbDoc.Settings.Arguments
import VerbDoc.Settings.Assigned
import VerbDoc.Settings.Environment
import VerbDoc.Proofs.Documentation.Reading
import VerbDoc.Proofs.Documentation.RoundTrip
import VerbDoc.Proofs.Documentation.Endings
import VerbDoc.Proofs.Endpoint.Atomicity
import VerbDoc.Proofs.Endpoint.Options
import VerbDoc.Proofs.Message.Replacing
import VerbDoc.Proofs.Message.Caseless
import VerbDoc.Proofs.Handler.Linearization
import VerbDoc.Proofs.Handler.Declaring
import VerbDoc.Proofs.Endpoint.Refusing
import VerbDoc.Proofs.Handler.Resolution
import VerbDoc.Proofs.Endpoint.Advertising
import VerbDoc.Proofs.Documentation.Comment
import VerbDoc.Proofs.Documentation.Concatenation
import VerbDoc.Proofs.Documentation.WellFormed
import VerbDoc.Proofs.Endpoint.ReadingBack
import VerbDoc.Proofs.Endpoint.Answering
import VerbDoc.Proofs.Endpoint.Transparency
import VerbDoc.Proofs.Endpoint.Redocumenting
import VerbDoc.Proofs.Text.Uppercasing
import VerbDoc.Proofs.Documentation.Continuing
import VerbDoc.Proofs.Documentation.Interleaving
import VerbDoc.Proofs.Endpoint.Listing
import VerbDoc.Proofs.Handler.SoleMethod
import VerbDoc.Proofs.Settings.Whitelisting
import VerbDoc.Proofs.Documentation.NormalForm
import VerbDoc.Proofs.Documentation.Freshness
import VerbDoc.Proofs.Documentation.Undecorating
import VerbDoc.Proofs.Endpoint.Delegating
import VerbDoc.Proofs.Settings.FileLines
import VerbDoc.Proofs.Settings.FromTexts
import VerbDoc.Proofs.Settings.Precedence
