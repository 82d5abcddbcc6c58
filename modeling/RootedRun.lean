import RootedRun.Host.Replay
import RootedRun.Host.Session
import RootedRun.Job.Machine
import RootedRun.Settings
import RootedRun.Task.Basic
import RootedRun.Text.Octets
import RootedRun.Proofs.Host.Placement
import RootedRun.Proofs.Host.Log
import RootedRun.Proofs.Host.Delegation
import RootedRun.Proofs.Host.Stacking
import RootedRun.Proofs.Host.HelperLine
import RootedRun.Proofs.SearchPath.Places
import RootedRun.Proofs.Host.Looks
import RootedRun.Proofs.Job.Independence
import RootedRun.Proofs.Aliases.LastWrite
import RootedRun.Proofs.Host.Setup
import RootedRun.Host.Setup
import RootedRun.Proofs.Host.Reachable
import RootedRun.Proofs.Host.Alike
import RootedRun.Proofs.Job.Race
import RootedRun.Proofs.Job.Cancellation
import RootedRun.Proofs.Host.Containment
import RootedRun.Proofs.Settings.Decoding
import RootedRun.Proofs.SearchPath.Joined
import RootedRun.Proofs.Host.Again
import RootedRun.Proofs.Job.Changes
import RootedRun.Proofs.Text.Utf8
import RootedRun.Proofs.Settings.Loading
import RootedRun.Proofs.SearchPath.Refusal
import RootedRun.Proofs.SearchPath.Candidates
