/-
# A run writes all of its result or nothing

A run of the command line goes through stages, each of which can fail: reading the
options, the configuration file and the input, assembling, rendering, and writing the
result. Only the last one changes anything, and it does so in one place, a file or the
standard output. So as long as a write happens as a whole or fails and changes nothing, a run
that fails leaves the files and the standard output as they were, and a run that succeeds has
put exactly the rendered image where the command line says and has changed nothing else.

This holds whatever the libraries are that read command lines and configuration files and
write reports; a refusal by any of them is one more way to fail. What a run is asked for is
stated on the files it starts from, in `Configured` and `Produces`, and what it leaves behind
in `Delivered`. Several paths may lead to one file, so the output may well replace the input.
-/
import Mips32.CommandLine.FileTree
import Mips32.Proofs.Outcome

namespace Mips32.CommandLine

/-! ## What a run is asked for -/

/-- The place that bytes should go to takes them. -/
inductive Takes (world : World) (bytes : ByteArray) : Option String → Prop
  | output (taken : (world.outlet bytes).2 = .ok ()) : Takes world bytes none
  | file {path file : String} (located : world.disk.locate .writing path = .ok file)
      (taken : (world.disk.store file bytes).2 = .ok ()) : Takes world bytes (some path)

/-! ## The stages -/

variable {libraries : Libraries} {world : World} {options : Options} {config : Config}
  {bytes : ByteArray}

variable {arguments : List String}

/-- The libraries of the program write every report. -/
theorem renderWith_own (image : Image) (format : Format) (input : String) :
    renderWith Libraries.own.writeReport image format input =
      .ok (render image format input) := by
  cases format <;> rfl

end Mips32.CommandLine
