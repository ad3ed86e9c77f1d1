import SupervisedShell.Text.Utf8

set_option autoImplicit false

namespace SupervisedShell.Path

def slash : UInt8 := 0x2F

def colon : UInt8 := 0x3A

def directories (searchPath : Bytes) : List Bytes := searchPath.splitOnP (· = colon)

/-- The empty directory is the one where the work is done. A directory may have its
slash already. -/
def join (directory name : Bytes) : Bytes :=
  if directory.isEmpty then name
  else if directory.getLast? = some slash then directory ++ name
  else directory ++ [slash] ++ name

end SupervisedShell.Path
