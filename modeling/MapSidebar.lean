import MapSidebar.Form.Rule
import MapSidebar.Main
import MapSidebar.Proofs.Announced
import MapSidebar.Proofs.Endpoints
import MapSidebar.Proofs.Instances
import MapSidebar.Proofs.LastNavigation
import MapSidebar.Proofs.Locations
import MapSidebar.Proofs.NestedLists
import MapSidebar.Proofs.Ownership
import MapSidebar.Proofs.Recovery
import MapSidebar.Proofs.SubmissionCourse
import MapSidebar.Proofs.PrintedRuns
import MapSidebar.Proofs.Unmounting
import MapSidebar.Proofs.WireFormats
import MapSidebar.Route.Roster
import MapSidebar.Proofs.PassedOn
import MapSidebar.Proofs.PatternGrammar
import MapSidebar.Proofs.WindowLinks
import MapSidebar.Proofs.ContentLists
import MapSidebar.Proofs.JoinedUrls
import MapSidebar.Proofs.FieldsSent
import MapSidebar.Proofs.MediaTypes
import MapSidebar.Proofs.NormalForms
import MapSidebar.Proofs.Precedence
import MapSidebar.Proofs.ShownFailures
import MapSidebar.Proofs.StandingApart
import MapSidebar.Proofs.Unloading
import MapSidebar.Proofs.OrderedFields
import MapSidebar.Proofs.Tickets
