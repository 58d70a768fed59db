import TableDdl.Validation

/-!
# Reports about faulty values

The wording of a report: how many issues there are, and for each of them its place, its kind and the
value at fault, which is cut if it is long.
-/

namespace TableDdl

/-- The text of a step in a report. -/
def LocationStep.text : LocationStep → Text
  | .name t => t
  | .index n => Text.ofNat n

/-- The most bytes of a value that a report shows in full. -/
def shownBytes : Nat := 50

/-- The longest start of a text that has at most so many bytes in UTF-8. -/
def takeBytes : Nat → Text → Text
  | _, [] => []
  | limit, p :: rest =>
    if Utf8.size p ≤ limit then p :: takeBytes (limit - Utf8.size p) rest else []

/-- A text cut in the middle if it has more than the shown bytes: about half of them from its start
and half from its end. -/
def shorten (t : Text) : Text :=
  if Utf8.textSize t ≤ shownBytes then t
  else
    takeBytes (shownBytes / 2) t ++ "..." ++
      (takeBytes (shownBytes / 2 - 1) t.reverse).reverse

/-- The lines that a report has for an issue. With a site that explains the kinds of issues, one of
them leads there. -/
def Issue.lines (site : Option Text) (issue : Issue) : List Text :=
  let place := Text.join "." (issue.location.map LocationStep.text)
  let further (address : Text) : Text :=
    "    For further information visit " ++ address ++ issue.kind.code
  (if issue.location.isEmpty then [] else [place]) ++
    ("  " ++ issue.kind.message ++ " [type=" ++ issue.kind.code ++ ", input_value=" ++
        shorten issue.input.display ++ ", input_type=" ++ issue.input.sortName ++ "]") ::
      (site.map further).toList

/-- The text of a report. -/
def ValidationReport.text (site : Option Text) (report : ValidationReport) : Text :=
  let count := report.issues.length
  let noun : Text := if count = 1 then "error" else "errors"
  Text.join "\n"
    ((Text.ofNat count ++ " validation " ++ noun ++ " for " ++ report.model) ::
      report.issues.flatMap (Issue.lines site))

end TableDdl
