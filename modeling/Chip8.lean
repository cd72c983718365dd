import Chip8.CommandLine.Disk
import Chip8.Disassembly
import Chip8.Main
import Chip8.Console.Trace
import Chip8.Terminal.KeyReader
import Chip8.Proofs.Failure
import Chip8.Proofs.Calls
import Chip8.Proofs.Safety
import Chip8.Proofs.Presentation
import Chip8.Proofs.Buzzing
import Chip8.Proofs.Redraw
import Chip8.Proofs.Listing
import Chip8.Proofs.Footprint
import Chip8.Proofs.Reserved
import Chip8.Proofs.Reload
import Chip8.Proofs.Glyphs
import Chip8.Proofs.Replay
import Chip8.Proofs.Contents
import Chip8.Proofs.Exits
import Chip8.Proofs.Halting
import Chip8.Proofs.Resumption
import Chip8.Proofs.Rendering
import Chip8.Proofs.Chronicle
import Chip8.Proofs.Timers
import Chip8.Proofs.Bookkeeping
import Chip8.Proofs.Lines
import Chip8.Proofs.Options
import Chip8.Proofs.Randomness
import Chip8.Proofs.Recovery
import Chip8.Proofs.Assembly
import Chip8.Proofs.Drawing
import Chip8.Proofs.Arithmetic
import Chip8.Proofs.Faults
import Chip8.Proofs.Blocks
import Chip8.Proofs.Parity
import Chip8.Proofs.Successor
import Chip8.Proofs.Interruption
import Chip8.Proofs.Culprits
import Chip8.Proofs.Destination
import Chip8.Proofs.Dumps
import Chip8.Proofs.Holding
import Chip8.Proofs.Saves
import Chip8.Proofs.Disks
import Chip8.Proofs.Dumping
import Chip8.Proofs.Waiting
import Chip8.Proofs.Planes
