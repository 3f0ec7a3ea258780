/-
# The name of the program
-/
namespace NodeKeeper.Release

def program : String := "vigil-node"

def version : String := "0.1.0"

end NodeKeeper.Release
