import Variadic.Demo.User

/-!
# The demonstration program
-/

def main : IO Unit :=
  for line in Variadic.Demo.lines do
    IO.println line
