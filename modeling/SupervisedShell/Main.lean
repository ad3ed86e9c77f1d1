import SupervisedShell.CommandLine

set_option autoImplicit false

open SupervisedShell

partial def readAll (s : IO.FS.Stream) (read : ByteArray) : IO ByteArray := do
  let chunk ← s.read 65536
  if chunk.isEmpty then return read
  readAll s (read ++ chunk)

def main (args : List String) : IO UInt32 := do
  let input ← readAll (← IO.getStdin) ByteArray.empty
  let searchPath? ← IO.getEnv "PATH"
  let machine :=
    (Machine.ofFiles .standard (searchPath?.map Utf8.encode) false).withInput input.toList
  let result := CommandLine.run
    { args := args, logFilter? := ← IO.getEnv "RUST_LOG", terminal? := ← IO.getEnv "TERM"
      machine := machine }
  let output ← IO.getStdout
  output.write (ByteArray.mk result.output.toArray)
  output.flush
  (← IO.getStderr).write (ByteArray.mk result.errors.toArray)
  return result.status.toUInt32
