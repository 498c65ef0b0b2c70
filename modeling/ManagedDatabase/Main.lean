/-
The command that prints the manifest of the custom resource, as a document of its own.
-/
import ManagedDatabase.Manifest

def main : IO Unit := do
  IO.println "---"
  IO.print ManagedDatabase.Manifest.text
