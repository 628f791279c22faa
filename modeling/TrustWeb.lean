import TrustWeb.Description
import TrustWeb.Drawing
import TrustWeb.Json.Printer
import TrustWeb.Json.Reader
import TrustWeb.Main
import TrustWeb.Report
import TrustWeb.Store.Loading
import TrustWeb.Web.Desk
import TrustWeb.Proofs.Authentication.Exhaustion
import TrustWeb.Proofs.Authentication.Limits
import TrustWeb.Proofs.Authentication.Modes
import TrustWeb.Proofs.Authentication.Order
import TrustWeb.Proofs.Authentication.Soundness
import TrustWeb.Proofs.Search.Width
import TrustWeb.Proofs.Authentication.Idle
import TrustWeb.Proofs.Authentication.Roots
import TrustWeb.Proofs.Store.Loading
import TrustWeb.Proofs.Store.Contents
import TrustWeb.Proofs.Description.Certificates
import TrustWeb.Proofs.Description.Order
import TrustWeb.Proofs.Description.Writing
import TrustWeb.Proofs.Desk.Service
import TrustWeb.Proofs.Edge.Calls
import TrustWeb.Proofs.Frontier.Refinement
import TrustWeb.Proofs.Network.Indexes
import TrustWeb.Proofs.Network.Delivery
import TrustWeb.Proofs.Web.Listing
import TrustWeb.Proofs.Web.Coverage
import TrustWeb.Proofs.Path.Book
import TrustWeb.Proofs.Path.Calls
import TrustWeb.Proofs.Path.Depth
import TrustWeb.Proofs.PathCheck.Completeness
import TrustWeb.Proofs.PathCheck.Extent
import TrustWeb.Proofs.Server.Runs
import TrustWeb.Proofs.Server.History
import TrustWeb.Proofs.Server.Vouching
import TrustWeb.Proofs.Residual.Taking
import TrustWeb.Proofs.Pattern.Domains
import TrustWeb.Proofs.Report.Headings
import TrustWeb.Proofs.Drawing.Signatures
import TrustWeb.Proofs.Fingerprint.Spelling
import TrustWeb.Proofs.Path.Building
import TrustWeb.Proofs.Drawing.Closure
import TrustWeb.Proofs.Drawing.QuotedStrings
import TrustWeb.Proofs.Drawing.FlowchartLines
