import ResourcePool.Demo

/-!
# The command line

The program takes no arguments and shows the demonstration.
-/

/-- Shows the demonstration. -/
def main : IO Unit := IO.print ResourcePool.Demo.text
