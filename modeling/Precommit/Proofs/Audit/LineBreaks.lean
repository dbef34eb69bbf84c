import Precommit.Proofs.Audit.Assembly
import Precommit.Proofs.Text.LineBreaks

/-!
# Line ends do not matter

An audit scans the lines that a text has when line ends of any kind count. Texts with the
same lines have the same findings, whatever ends their lines.
-/

namespace Precommit

namespace Auditor

theorem textFindings_of_breaksInto (auditor : Auditor) (path : String) {text : List Char}
    {lines : List Line} (breaks : Text.BreaksInto text lines) :
    auditor.textFindings path text =
      Check.all.flatMap fun check => check.findings auditor path lines := by
  rw [breaks.eq_lines]
  rfl

/--
The scanned lines are the one reading of the text in which a carriage return with the line
feed after it, either of them alone and nothing else ends a line. They are as many as there
are line ends and one more, and line feeds between them make up the normal form of the text,
which is its own normal form. Texts with a reading in common have the same findings.
-/
theorem textFindings_lineBreaks (text : List Char) :
    let lines := Text.lines (Text.universalBreaks text)
    (∀ lines', Text.BreaksInto text lines' ↔ lines' = lines) ∧
      (∀ auditor : Auditor, ∀ path, auditor.textFindings path text =
        Check.all.flatMap fun check => check.findings auditor path lines) ∧
      (∀ line ∈ lines, '\r' ∉ line ∧ '\n' ∉ line) ∧
      lines.length + (text.zip text.tail).count ('\r', '\n') =
        1 + text.count '\n' + text.count '\r' ∧
      List.intercalate ['\n'] lines = Text.universalBreaks text ∧
      Text.universalBreaks (Text.universalBreaks text) = Text.universalBreaks text ∧
      ∀ other lines', Text.BreaksInto text lines' → Text.BreaksInto other lines' →
        ∀ auditor : Auditor, ∀ path,
          auditor.textFindings path text = auditor.textFindings path other := by
  have reading := Text.breaksInto_iff.2 (Eq.refl (Text.lines (Text.universalBreaks text)))
  refine ⟨fun _ => Text.breaksInto_iff, fun _ _ => rfl, fun _ => reading.isUnbroken_of_mem,
    reading.length_add_pairCount, Text.intercalate_lines _,
    Text.universalBreaks_universalBreaks text, ?_⟩
  intro other lines' breaks breaks' auditor path
  rw [auditor.textFindings_of_breaksInto path breaks,
    auditor.textFindings_of_breaksInto path breaks']

/-- A carriage return before a pair, at the end or in place of a line feed changes nothing. -/
theorem textFindings_of_mixed_breaks :
    ∃ auditor, ofPolicy {} = .ok auditor ∧
      auditor.textFindings "A.swift" "let a = 1\r\r\nlet b = a!\nprint(b)\r".toList =
        auditor.textFindings "A.swift" "let a = 1\n\nlet b = a!\r\nprint(b)\n".toList := by
  rcases exists_ofPolicy_builtin with ⟨auditor, read⟩
  have breaks : Text.BreaksInto "let a = 1\r\r\nlet b = a!\nprint(b)\r".toList
      ["let a = 1".toList, [], "let b = a!".toList, "print(b)".toList, []] :=
    Text.breaksInto_iff.2 (by decide +kernel)
  have breaks' : Text.BreaksInto "let a = 1\n\nlet b = a!\r\nprint(b)\n".toList
      ["let a = 1".toList, [], "let b = a!".toList, "print(b)".toList, []] :=
    Text.breaksInto_iff.2 (by decide +kernel)
  exact ⟨auditor, read,
    (textFindings_lineBreaks _).2.2.2.2.2.2 _ _ breaks breaks' auditor "A.swift"⟩

end Auditor

end Precommit
