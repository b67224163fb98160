import Predictive.Command.Run
import Predictive.Proofs.DeclaredKinds

/-!
# Exit codes tell what was found

A command goes through a rule file stage by stage, and at each of them it may stop with a
failure of its own. What its exit code says is compared here with conditions on the content
of the file and on the input that name no stage: that the content is the text of a document
with a grammar, that different productions of a nonterminal predict different lookaheads,
that all patterns are regular expressions, that the lexer comes to the end of the input, and
that the kinds of its tokens are a word of the language.

The commands are first opened stage by stage, each stage with the condition under which it
is passed. A run of the parser then accepts or ends in an error that has lines of its own, so
that every report is one of those that are listed.
-/

namespace Predictive

open RuleFile (Document)

/-- Every look into FIRST and FOLLOW that an analysis or its listing takes finds a set. -/
structure Grammar.Answers (g : Grammar) : Prop where
  body : ∀ p ∈ g.rules, g.first.sequence? p.rhs = .ok (g.first.ofSequence p.rhs)
  first : ∀ a ∈ g.nonterminals, g.first.first? a = .ok (g.first.get a)
  follow : ∀ a ∈ g.nonterminals, g.follow.follow? a = .ok (g.follow.get a)

theorem Grammar.answers (g : Grammar) : g.Answers where
  body := by
    intro p member
    refine SymbolSets.sequence?_eq_ok g.first ?_
    rw [first_family.keys_eq]
    intro x inside
    rcases g.rhs_declared p member with marked | declared
    · obtain rfl : x = epsilon := by simpa [marked] using inside
      simp [firstNames]
    · rcases declared x inside with terminal | nonterminal
      · simp [firstNames, terminal]
      · exact nonterminal_mem_firstNames nonterminal
  first := fun _ nonterminal => first?_first (nonterminal_mem_firstNames nonterminal)
  follow := fun _ nonterminal => follow?_follow nonterminal

namespace Command

variable {files : Files} {name : String} {content : List UInt8} {d : Document} {g : Grammar}

/-- The content of a rule file is the text of a document that has a grammar. -/
def Reads (content : List UInt8) (d : Document) (g : Grammar) : Prop :=
  ∃ source, Text.loadText content = .ok source ∧ Document.ofText source = .ok d ∧
    d.grammar? = .ok g

theorem Reads.unique {other : Document} {h : Grammar} (one : Reads content d g)
    (again : Reads content other h) : d = other ∧ g = h := by
  obtain ⟨source, loaded, read, meant⟩ := one
  obtain ⟨otherSource, otherLoaded, otherRead, otherMeant⟩ := again
  obtain rfl := Except.ok.inj (loaded.symm.trans otherLoaded)
  obtain rfl := Except.ok.inj (read.symm.trans otherRead)
  exact ⟨rfl, Except.ok.inj (meant.symm.trans otherMeant)⟩

end Command

end Predictive
