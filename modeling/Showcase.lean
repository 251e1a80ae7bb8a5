import Showcase.Text.Wrap
import Showcase.Screen.Ansi
import Showcase.Screen.Repaint
import Showcase.Input.Geometry
import Showcase.Input.Key
import Showcase.Input.Envelope
import Showcase.Harness
import Showcase.Portfolio.Program
import Showcase.Scripted
import Showcase.Text.Blank
import Showcase.Queue.Clients
import Showcase.Session.Run
import Showcase.Text.Quoted
import Showcase.Toml.Document
import Showcase.Settings.Load
import Showcase.Connection.Admission
import Showcase.Connection.RawStream
import Showcase.Connection.WebSocket
import Showcase.CommandLine.Start
import Showcase.Server
import Showcase.Main
import Showcase.Queue.Reach
import Showcase.Session.Reach
import Showcase.Proofs.Queue.Conservation
import Showcase.Proofs.Session.Chains
import Showcase.Proofs.Session.Ending
import Showcase.Proofs.Screen.Faithful
import Showcase.Proofs.Portfolio.Navigation
import Showcase.Proofs.Queue.Overtaking
import Showcase.Proofs.Session.Receiving
import Showcase.Proofs.Session.Showing
import Showcase.Proofs.Session.Sending
import Showcase.Proofs.Screen.Repainting
import Showcase.Proofs.Queue.Waking
import Showcase.Proofs.Json.Spelling
import Showcase.Proofs.Json.Numbers
import Showcase.Proofs.Json.Lexing
import Showcase.Proofs.Json.Reading
import Showcase.Proofs.Input.Classification
import Showcase.Proofs.Input.Announcement
import Showcase.Proofs.Session.Resizing
import Showcase.Proofs.Session.Guarding
import Showcase.Proofs.Harness.Faithful
import Showcase.Proofs.Text.Wrapping
import Showcase.Proofs.Screen.Lettering
import Showcase.Proofs.Screen.Fitting
import Showcase.Proofs.Portfolio.Scrolling
import Showcase.Proofs.Portfolio.Theming
import Showcase.Proofs.Widget.Viewing
import Showcase.Proofs.Session.Leaves
import Showcase.Proofs.Session.Skipping
import Showcase.Proofs.Settings.Layers
import Showcase.Proofs.Widget.Widths
import Showcase.Proofs.Widget.Helping
import Showcase.Proofs.Widget.Listing
import Showcase.Proofs.Widget.Choosing
import Showcase.Proofs.Screen.Texts
import Showcase.Proofs.Portfolio.Browsing
