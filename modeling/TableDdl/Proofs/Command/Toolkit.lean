import TableDdl.Command.Run
import TableDdl.Proofs.Text.Printed

/-!
# What is relied on

The laws of the packages that results about the commands rest on. Each is a property of a toolkit in
some surroundings, and each result names those that it needs.
-/

namespace TableDdl

theorem Text.isScalar_line {t : Text} (scalar : Json.IsScalar t) : Json.IsScalar t.line :=
  scalar.append (Json.IsScalar.ofString "\n")

/-- The encoding takes a text. -/
def Encoding.Takes (e : Encoding) (t : Text) : Prop :=
  ∃ bytes, e.encode t = .ok bytes

namespace Toolkit

/-- What is echoed may lose control sequences on the way, and nothing else: no point is added, and a
text without an escape is written as it is. -/
structure StripsEchoes (kit : Toolkit) (s : Surroundings) : Prop where
  sublist : ∀ t, (kit.echo s t).Sublist t
  plain : ∀ t, Text.escape ∉ t → kit.echo s t = t

/-- Once a text is escaped it can be reported, whatever is in it. -/
def ReportsEscaped (kit : Toolkit) (s : Surroundings) : Prop :=
  ∀ t, ∃ line, kit.report s ("[red]Error:[/red] " ++ kit.escape t) = .ok line

/-- The label of a report stands at its beginning, as it does where no colours are shown and a line
has room for the label. -/
def LabelsReports (kit : Toolkit) (s : Surroundings) : Prop :=
  ∀ t, ∃ more, kit.report s ("[red]Error:[/red] " ++ kit.escape t) = .ok ("Error: " ++ more)

end Toolkit

end TableDdl
