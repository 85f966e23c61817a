import TclHost.Proofs.Command.Answering
import TclHost.Proofs.Command.Reentry
import TclHost.Proofs.Exit.Ending
import TclHost.Proofs.Exit.Outside
import TclHost.Proofs.Isolation.Sessions
import TclHost.Proofs.Levels.Chain
import TclHost.Proofs.Lifecycle.Runs
import TclHost.Proofs.Loading.Requests
import TclHost.Proofs.Objects.Watched
import TclHost.Proofs.Reference.Brackets
import TclHost.Proofs.Safety.Mode
import TclHost.Proofs.Script.Arrays
import TclHost.Proofs.Script.Files
import TclHost.Proofs.Serialise.Coverage
import TclHost.Proofs.Text.OnePass
import TclHost.Reference
import TclHost.Scenario.Loading
import TclHost.Scenario.TableScript
