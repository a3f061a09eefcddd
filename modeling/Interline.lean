import Interline.Session
import Interline.Pass
import Interline.Layout.Spacing
import Interline.Layout.BlankLine
import Interline.Proofs.Shaper.Mark
import Interline.Proofs.Shaper.Sound
import Interline.Proofs.Session.Sound
import Interline.Proofs.Layout.Proper
import Interline.Proofs.Line
import Interline.Proofs.Pass.Rows
import Interline.Proofs.Pass.Run
import Interline.Proofs.Pass.SecondPass
import Interline.Proofs.Layout.Lines
import Interline.Proofs.Pass.SingleBlanks
import Interline.Proofs.Session.Faults
import Interline.Proofs.Session.Settled
import Interline.Proofs.Pass.Reasons
import Interline.Proofs.Shaper.Window
import Interline.Proofs.Session.Lookback
import Interline.Proofs.Session.Content
import Interline.Proofs.Session.Lines
import Interline.Proofs.Shaper.Settings
import Interline.Proofs.Session.Settings
import Interline.Proofs.Pass.Disguise
import Interline.Proofs.Shaper.Insertion
import Interline.Proofs.Shaper.Push
import Interline.Proofs.Session.Repeat
import Interline.Proofs.Shaper.Removal
import Interline.Proofs.Pass.Log
import Interline.Proofs.Session.Taken
import Interline.Proofs.Text.Reading
import Interline.Proofs.Pass.Report
