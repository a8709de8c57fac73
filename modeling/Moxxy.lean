import Moxxy.Python.Dict
import Moxxy.Python.Builtins
import Moxxy.Python.Float
import Moxxy.Python.Json
import Moxxy.Browser.Snapshot
import Moxxy.Browser.Driver
import Moxxy.Browser.Session
import Moxxy.Browser.Bridge
import Moxxy.Browser.Actions
import Moxxy.Browser.Loop
import Moxxy.Browser.Server
import Moxxy.Fetch.HtmlToText
import Moxxy.Fetch.SearchWeb
import Moxxy.Fetch.Report
import Moxxy.Fetch.Main
import Moxxy.Workspace.Requests
import Moxxy.Workspace.Main
import Moxxy.Proofs.Browser.Numbering
import Moxxy.Proofs.Browser.SnapshotText
import Moxxy.Proofs.Browser.Runs
import Moxxy.Proofs.Browser.Specs
import Moxxy.Proofs.Browser.Effects
import Moxxy.Proofs.Browser.Lookup
import Moxxy.Proofs.Browser.Serial
import Moxxy.Proofs.Browser.Liveness
import Moxxy.Proofs.Browser.Server
import Moxxy.Proofs.Browser.Interleaving
import Moxxy.Proofs.Browser.Interference
import Moxxy.Proofs.Browser.Concurrent
import Moxxy.Proofs.Browser.Malformed
import Moxxy.Proofs.Fetch.HtmlToText
import Moxxy.Proofs.Fetch.SearchWeb
import Moxxy.Proofs.Fetch.GetText
import Moxxy.Proofs.Fetch.Markup
import Moxxy.Proofs.Fetch.Report
import Moxxy.Proofs.Fetch.Main
import Moxxy.Proofs.Workspace.Gmail
import Moxxy.Proofs.Workspace.Drive
import Moxxy.Proofs.Workspace.Main
