import ChipEight.Complaint
import ChipEight.Dialect.Description
import ChipEight.Instr.Op
import ChipEight.Log.Threshold
import ChipEight.Main
import ChipEight.Program.Host
import ChipEight.Proofs.Loose.Session
import ChipEight.Proofs.Machine.AddressSpace
import ChipEight.Proofs.Pacer.LastPicture
import ChipEight.Session.Command
import ChipEight.Storage.Write
import ChipEight.Text.Hex
import ChipEight.Proofs.Machine.Pace
import ChipEight.Proofs.Pacer.Rounds
import ChipEight.Proofs.Machine.Sprites
import ChipEight.Proofs.Pacer.Pace
import ChipEight.Proofs.Machine.Dialects
import ChipEight.Proofs.Pacer.EveryPicture
import ChipEight.Proofs.Machine.CallStack
import ChipEight.Proofs.Instr.Patterns
import ChipEight.Proofs.Machine.Footprint
import ChipEight.Proofs.Pacer.Sound
import ChipEight.Proofs.Pacer.Abort
import ChipEight.Proofs.Window.Scene
import ChipEight.Proofs.Window.Pause
import ChipEight.Proofs.Machine.SpriteCover
import ChipEight.Proofs.Machine.Arithmetic
import ChipEight.Proofs.Machine.Load
import ChipEight.Proofs.Window.Beep
import ChipEight.Proofs.Machine.Successor
import ChipEight.Proofs.Machine.Transfer
import ChipEight.Proofs.Machine.DrawOrder
import ChipEight.Proofs.Pacer.Accounts
import ChipEight.Proofs.Text.Digits
import ChipEight.Proofs.Machine.Report
import ChipEight.Proofs.Controls.HeldKeys
import ChipEight.Proofs.Controls.PauseKey
import ChipEight.Proofs.Dialect.Choice
import ChipEight.Proofs.Sound.Tone
import ChipEight.Proofs.Instr.Templates
import ChipEight.Proofs.Machine.Listing
import ChipEight.Proofs.Window.Views
import ChipEight.Proofs.Sound.LifeCycle
import ChipEight.Proofs.Memory.Overwriting
import ChipEight.Proofs.Display.Tally
