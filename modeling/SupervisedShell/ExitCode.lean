
set_option autoImplicit false

namespace SupervisedShell

abbrev ExitCode := Int

namespace ExitCode

def success : ExitCode := 0

def failure : ExitCode := 1

def timedOut : ExitCode := 124

def cannotExecute : ExitCode := 126

def notFound : ExitCode := 127

def signalBase : ExitCode := 128

end ExitCode

end SupervisedShell
