import ChipEight.Instruction.RoundTrip
import ChipEight.Keys.Layout
import ChipEight.Main
import ChipEight.Proofs.Effect
import ChipEight.Proofs.Run
import ChipEight.Screen.Texture
import ChipEight.Sound.Beeper
import ChipEight.Sound.SquareWave
import ChipEight.Proofs.Failure
import ChipEight.Proofs.Sprite
import ChipEight.Proofs.CallStack
import ChipEight.Proofs.FrameHistory
import ChipEight.Proofs.Checked
import ChipEight.Proofs.Safety
import ChipEight.Proofs.KeyWait
import ChipEight.Proofs.Tick
import ChipEight.Proofs.Pacing
import ChipEight.Proofs.AddressFolding
import ChipEight.Proofs.TickRate
import ChipEight.Proofs.Lockstep
import ChipEight.Proofs.Confinement
import ChipEight.Proofs.RandomAccount
import ChipEight.Proofs.SpeedIndependence
import ChipEight.Proofs.FaultPersistence
import ChipEight.Proofs.Timers
import ChipEight.Proofs.Scan
import ChipEight.Proofs.Arithmetic
import ChipEight.Proofs.ControlFlow
import ChipEight.Proofs.Ownership
import ChipEight.Proofs.RegisterTransfer
import ChipEight.Proofs.DrawAlgebra
import ChipEight.Proofs.LitCells
import ChipEight.Proofs.Sleep
import ChipEight.Proofs.Texture
import ChipEight.Proofs.ColorText
import ChipEight.Proofs.Loading
import ChipEight.Proofs.MemoryHistory
import ChipEight.Proofs.HeldKeys
import ChipEight.Proofs.WindowScale
import ChipEight.Proofs.RunJournal
import ChipEight.Proofs.ToneEdges
