import SnesDisasm.Address.Advance
import SnesDisasm.Address.Counter
import SnesDisasm.Address.Decoding
import SnesDisasm.Address.Encoding
import SnesDisasm.Address.Mirrors
import SnesDisasm.CPU.Flags
import SnesDisasm.CPU.Registers
import SnesDisasm.Decode.Prefix
import SnesDisasm.Decode.Textual
import SnesDisasm.Decode.Widths
import SnesDisasm.Load.Copy
import SnesDisasm.Load.Fields
import SnesDisasm.Load.Layouts
import SnesDisasm.Load.Lifetimes
import SnesDisasm.Load.Logged
import SnesDisasm.Load.Sizes
import SnesDisasm.Load.Vectors
import SnesDisasm.Program.Footprint
import SnesDisasm.Sweep.Assembled
import SnesDisasm.Sweep.Delimits
import SnesDisasm.Sweep.Handler
import SnesDisasm.Sweep.Interleaved
import SnesDisasm.Sweep.Mirrored
import SnesDisasm.Sweep.Resume
import SnesDisasm.Sweep.States
import SnesDisasm.Sweep.StraightLine
import SnesDisasm.Sweep.Tiling
import SnesDisasm.Sweep.Transparency
