import WebLinking.Logging
import WebLinking.Representation.Validation
import WebLinking.Representation.Workspace
import WebLinking.Response
import WebLinking.Route
import WebLinking.Proofs.Template.Reading
import WebLinking.Proofs.Link.Expansion
import WebLinking.Proofs.Link.Finality
import WebLinking.Proofs.Link.Header
import WebLinking.Proofs.Representation.Change
import WebLinking.Proofs.Template.OnePass
import WebLinking.Proofs.Template.Addition
import WebLinking.Proofs.Template.Delimiters
import WebLinking.Proofs.Template.Recovery
import WebLinking.Proofs.Number.Reading
import WebLinking.Proofs.Page.Consistency
import WebLinking.Proofs.Page.Derivation
import WebLinking.Proofs.Representation.RoundTrip
import WebLinking.Proofs.Template.Numbers
import WebLinking.Proofs.Pagination.Links
import WebLinking.Proofs.Pagination.Walk
import WebLinking.Proofs.Pagination.Literal
import WebLinking.Proofs.Representation.Agreement
import WebLinking.Proofs.Link.Calls
import WebLinking.Proofs.Link.Spelling
import WebLinking.Proofs.Template.Concatenation
import WebLinking.Proofs.Template.Merging
import WebLinking.Proofs.Template.Flaws
import WebLinking.Proofs.Representation.InPlace
import WebLinking.Proofs.Percent.Reserved
import WebLinking.Proofs.Template.Prefix
import WebLinking.Proofs.Template.Absence
import WebLinking.Proofs.Template.Obstacles
import WebLinking.Proofs.Percent.Unreserved
import WebLinking.Proofs.Template.Calls
import WebLinking.Proofs.Route.Advertising
import WebLinking.Proofs.Pagination.Outcome
import WebLinking.Proofs.Representation.Lookup
import WebLinking.Proofs.Representation.Draft
import WebLinking.Proofs.Representation.Adding
import WebLinking.Proofs.Header.Scanning
import WebLinking.Proofs.Template.Refusal
import WebLinking.Proofs.Representation.Sharing
