import DocStore.Text.Blank
import DocStore.Text.Bytes

namespace DocStore.Text

def readCodePoint (digits : List Char) : Nat := (hexNumber? digits).getD 0

-- A run is written `first`, `first-last` or `first-last/stride` in hexadecimal digits.
def readRun (word : List Char) : Run :=
  match (splitAt (fun c => c == '-' || c == '/') word).map readCodePoint with
  | [] => ⟨0, 0, 1⟩
  | [n] => ⟨n, n, 1⟩
  | [first, last] => ⟨first, last, 1⟩
  | first :: last :: stride :: _ => ⟨first, last, stride⟩

def readRuns (lines : List String) : List Run :=
  lines.flatMap fun line => (splitAt (· == ' ') line.toList).map readRun

end DocStore.Text
