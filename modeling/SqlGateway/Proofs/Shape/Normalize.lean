import SqlGateway.Proofs.Checks
import SqlGateway.Proofs.Shape.Kept
import SqlGateway.Proofs.Sql.Parser.Basic
import SqlGateway.Sql.Statement

/-!
# The meaning of the normal form

A text whose tokens are kept states the same before and after its blanks are joined.  A comment up
to the end of its line is the main thing that is not kept: on one line with what follows, it
swallows the clauses behind it.
-/

namespace SqlGateway.Statement

open Sql

/-- The statement in a list of tokens, which holds exactly one. -/
def ofTokens (tokens : List Token) : Except Error Statement :=
  match (Parser.commandsWithin (tokens.length + 1)).run tokens with
  | .error _ => .error .grammar
  | .ok ([], _) => .error .noStatement
  | .ok ([command], _) => command.toStatement
  | .ok (_ :: _ :: _, _) => .error (.unsupported .multipleStatements)

theorem ofSql_eq_ofTokens {text : List Char} {tokens : List Token}
    (htokens : tokenize? text = some tokens) : ofSql text = ofTokens tokens := by
  simp only [ofSql, ofTokens, Command.ofText?, htokens, Option.bind_eq_bind, Option.bind_some]
  rcases (Parser.commandsWithin (tokens.length + 1)).run tokens with fault | ⟨commands, _⟩
  · rfl
  · rcases commands with _ | ⟨command, _ | ⟨next, further⟩⟩ <;> rfl

/-! ### The end of a statement -/

variable {first : Token} {tokens rest : List Token} {command : Command}

/-- A statement up to the end of the text, or up to a semicolon there, is all that the text
holds. -/
theorem ofTokens_of_command (hfirst : first ≠ .symbol ";")
    (hcommand : (nestedWithin maxDepth).command (first :: tokens) = .ok (command, rest))
    (hrest : rest = [] ∨ rest = [.symbol ";"]) :
    ofTokens (first :: tokens) = command.toStatement := by
  have hdrop : (first :: tokens).dropWhile (· == .symbol ";") = first :: tokens := by
    rw [List.dropWhile_cons_of_neg (by simpa using hfirst)]
  have hcommands : Parser.commandsWithin ((first :: tokens).length + 1) (first :: tokens) =
      .ok ([command], []) := by
    rcases hrest with rfl | rfl <;>
      simp only [Parser.commandsWithin, Parser.bind_apply, Parser.get_apply, Parser.set_apply,
        hdrop, List.isEmpty_cons, Bool.false_eq_true, if_false, hcommand, Parser.pure_apply]
    -- the round behind the semicolon finds no further statement
    rfl
  rw [ofTokens, StateT.run, hcommands]

/-- The grammar does without a final semicolon where a statement ends before it: the semicolon is
passed over, and what is left is no statement. -/
theorem ofTokens_append_semicolon (hfirst : first ≠ .symbol ";")
    (hbefore : (nestedWithin maxDepth).command (first :: (tokens ++ [.symbol ";"])) =
      .ok (command, [.symbol ";"]))
    (hwithout : (nestedWithin maxDepth).command (first :: tokens) = .ok (command, [])) :
    ofTokens (first :: tokens ++ [.symbol ";"]) = ofTokens (first :: tokens) := by
  rw [List.cons_append, ofTokens_of_command hfirst hbefore (.inr rfl),
    ofTokens_of_command hfirst hwithout (.inl rfl)]

/-! ### The normal form -/

/-- The normal form of a text that is kept states what the text states.  A final semicolon is cut
off; that the grammar does without it is assumed of its tokens. -/
theorem ofSql_normalize {text : List Char} (hkeeps : Shape.keepsTokens text = true)
    (hoptional : ∀ tokens, tokenize? text = some (tokens ++ [.symbol ";"]) →
      ofTokens (tokens ++ [.symbol ";"]) = ofTokens tokens) :
    ofSql (Shape.normalize text) = ofSql text := by
  obtain ⟨tokens, hnormal, hsame | hsemicolon⟩ := Shape.tokenize?_normalize hkeeps
  · rw [ofSql_eq_ofTokens hnormal, ofSql_eq_ofTokens hsame]
  · rw [ofSql_eq_ofTokens hnormal, ofSql_eq_ofTokens hsemicolon, hoptional tokens hsemicolon]

/-- The tokens of a deletion with a comment and with a string that looks like one. -/
def commentTokens : List Token :=
  [.word (.bare "DELETE".toList), .word (.bare "FROM".toList), .word (.bare "t".toList),
    .word (.bare "WHERE".toList), .word (.bare "a".toList), .symbol "=", .string '\'' "x  '-- "]

theorem ofSql_normalize_comment :
    ofSql (Shape.normalize "DELETE FROM t /* it''s */\n WHERE a  = 'x  ''-- ' ;\n ".toList) =
      ofSql "DELETE FROM t /* it''s */\n WHERE a  = 'x  ''-- ' ;\n ".toList := by
  refine ofSql_normalize (by decide +kernel) fun tokens htokens => ?_
  have hread : tokenize? "DELETE FROM t /* it''s */\n WHERE a  = 'x  ''-- ' ;\n ".toList =
      some (commentTokens ++ [.symbol ";"]) := by
    decide +kernel
  obtain rfl : tokens = commentTokens :=
    List.append_cancel_right (Option.some.inj (htokens.symm.trans hread))
  exact ofTokens_append_semicolon (by decide) rfl rfl

/-- Whether a text states a deletion of the rows that satisfy a condition. -/
def deletesSome (text : List Char) : Bool :=
  match ofSql text with
  | .ok (.delete d) => d.filter.isSome
  | _ => false

/-- Not every text keeps its statement: a condition behind a comment is lost. -/
theorem not_forall_ofSql_normalize :
    ¬ ∀ text statement, ofSql text = .ok statement →
      ofSql (Shape.normalize text) = .ok statement := by
  intro hkept
  have hread : (ofSql "DELETE FROM t -- all\nWHERE a = 1".toList).isOk = true := by
    decide +kernel
  obtain ⟨statement, hstatement⟩ := exists_eq_ok_of_isOk hread
  have hbefore : deletesSome "DELETE FROM t -- all\nWHERE a = 1".toList = true := by
    decide +kernel
  have hbehind :
      deletesSome (Shape.normalize "DELETE FROM t -- all\nWHERE a = 1".toList) = false := by
    decide +kernel
  rw [deletesSome, hkept _ _ hstatement] at hbehind
  rw [deletesSome, hstatement, hbehind] at hbefore
  exact Bool.false_ne_true hbefore

end SqlGateway.Statement
