import CompilerRunner.Text.Utf8
import CompilerRunner.Yaml.Content

/-!
# Yaml

Values from documents in YAML 1.1.  A text holds one document; an empty one stands for nothing.
-/

namespace CompilerRunner.Yaml

/-- The value of a document. -/
def read (text : List Char) : Except Fault Value := do
  match ← Graph.ofText text with
  | (none, _) => return .null
  | (some root, g) => g.value root

end CompilerRunner.Yaml
