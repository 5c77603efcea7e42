import Playground.Output.Literal

namespace Playground.Literal

/-- A piece of a body: a character as it stands, or one behind a backslash. -/
inductive Piece where
  | plain (c : Char)
  | guarded (c : Char)
deriving DecidableEq

namespace Piece

/-- How a piece is written. -/
def written : Piece → Text
  | plain c => [c]
  | guarded c => ['\\', c]

/-- The character that a piece stands for. -/
def meant : Piece → Char
  | plain c | guarded c => c

theorem meant_mem_written (p : Piece) : p.meant ∈ p.written := by
  cases p with
  | plain c => exact List.mem_singleton_self c
  | guarded c => exact List.mem_of_mem_tail List.mem_cons_self

/-- Whether a piece can stand between such quotes. A quote or a backslash does not stand for itself. -/
def fits (quote : Char) : Piece → Bool
  | plain c => c != quote && c != '\\'
  | guarded _ => true

/-- The piece for a character between such quotes, which is guarded only if it has to be. -/
def standFor (quote c : Char) : Piece := if c == quote || c == '\\' then guarded c else plain c

theorem fits_standFor (quote c : Char) : (standFor quote c).fits quote = true := by
  unfold standFor
  split
  · rfl
  · simp_all [fits]

theorem meant_standFor (quote c : Char) : (standFor quote c).meant = c := by
  unfold standFor
  split <;> rfl

end Piece

/-- A content as it is written between such quotes: quotes and backslashes get a backslash. -/
def protect (quote : Char) (content : Text) : Text :=
  content.flatMap fun c => if c == quote || c == '\\' then ['\\', c] else [c]

/-- A way to cut an expression at a literal that no other quote comes before. -/
structure Quotation where
  front : Text
  quote : Char
  body : List Piece
  back : Text
  unquoted : front.any isQuote = false
  quotes : isQuote quote = true
  fitting : ∀ p ∈ body, p.fits quote = true

namespace Quotation

/-- The expression that is cut. -/
def expr (q : Quotation) : Text := q.front ++ q.quote :: (q.body.flatMap Piece.written ++ q.quote :: q.back)

/-- What the literal stands for. -/
def content (q : Quotation) : Text := q.body.map Piece.meant

end Quotation

variable {quote : Char} {t content : Text}

theorem ne_backslash (quotes : isQuote quote = true) : quote ≠ '\\' := by
  rintro rfl
  contradiction

/-- A closing quote. -/
theorem content?_quote (quotes : isQuote quote = true) (back : Text) : content? quote (quote :: back) = some [] := by
  rw [content?, if_pos (beq_self_eq_true quote)]
  intro c rest isBackslash
  exact absurd isBackslash (ne_backslash quotes)

theorem content?_piece {p : Piece} (fits : p.fits quote = true) (rest : Text) :
    content? quote (p.written ++ rest) = (content? quote rest).map (p.meant :: ·) := by
  cases p with
  | guarded c => rfl
  | plain c =>
    obtain ⟨notQuote, notBackslash⟩ : c ≠ quote ∧ c ≠ '\\' := by simpa [Piece.fits] using fits
    rw [Piece.written, List.singleton_append, content?, if_neg (by simpa using notQuote), Piece.meant]
    intro d more isBackslash
    exact absurd isBackslash notBackslash

/-- What is written as a body is read as one. -/
theorem content?_written (quotes : isQuote quote = true) {body : List Piece} (fitting : ∀ p ∈ body, p.fits quote = true)
    (back : Text) :
    content? quote (body.flatMap Piece.written ++ quote :: back) = some (body.map Piece.meant) := by
  induction body with
  | nil => exact content?_quote quotes back
  | cons p body ih =>
    rw [List.flatMap_cons, List.append_assoc, content?_piece (fitting p List.mem_cons_self),
      ih fun other member => fitting other (List.mem_cons_of_mem p member)]
    rfl

/-- What is read as a body is written as one. -/
theorem exists_written_of_content? (found : content? quote t = some content) :
    ∃ (body : List Piece) (back : Text), (∀ p ∈ body, p.fits quote = true) ∧
      t = body.flatMap Piece.written ++ quote :: back ∧ body.map Piece.meant = content := by
  fun_induction content? quote t generalizing content with
  | case1 => contradiction
  | case2 c rest ih =>
    obtain ⟨more, inRest, rfl⟩ := Option.map_eq_some_iff.mp found
    obtain ⟨body, back, fitting, rfl, rfl⟩ := ih inRest
    exact ⟨.guarded c :: body, back, List.forall_mem_cons.mpr ⟨rfl, fitting⟩, rfl, rfl⟩
  | case3 c rest _ closes =>
    obtain rfl := Option.some.inj found
    obtain rfl := beq_iff_eq.mp closes
    exact ⟨[], rest, by simp, rfl, rfl⟩
  | case4 c rest other inside ih =>
    obtain ⟨more, inRest, rfl⟩ := Option.map_eq_some_iff.mp found
    obtain ⟨body, back, fitting, rfl, rfl⟩ := ih inRest
    -- A backslash with something behind it is read with the next character, and here the closing quote is behind it.
    have notBackslash : c ≠ '\\' := by
      obtain ⟨next, more, rest⟩ : ∃ next more, body.flatMap Piece.written ++ quote :: back = next :: more :=
        List.exists_cons_of_ne_nil (by simp)
      exact fun isBackslash => other next more isBackslash rest
    have fits : (Piece.plain c).fits quote = true := by simp_all [Piece.fits]
    exact ⟨.plain c :: body, back, List.forall_mem_cons.mpr ⟨fits, fitting⟩, rfl, rfl⟩

theorem Piece.written_append_ne {p : Piece} (quotes : isQuote quote = true) (fits : p.fits quote = true)
    (rest back : Text) : p.written ++ rest ≠ quote :: back := by
  intro same
  cases p with
  | guarded c => exact ne_backslash quotes (List.cons.inj same).1.symm
  | plain c =>
    obtain rfl : c = quote := (List.cons.inj same).1
    simp [Piece.fits] at fits

theorem Piece.written_append_inj {p q : Piece} (fits : p.fits quote = true) (otherFits : q.fits quote = true)
    {rest other : Text} (same : p.written ++ rest = q.written ++ other) : p = q ∧ rest = other := by
  cases p with
  | plain c =>
    cases q with
    | plain d =>
      obtain ⟨rfl, rfl⟩ := List.cons.inj same
      exact ⟨rfl, rfl⟩
    | guarded d =>
      obtain rfl : c = '\\' := (List.cons.inj same).1
      simp [Piece.fits] at fits
  | guarded c =>
    cases q with
    | plain d =>
      obtain rfl : '\\' = d := (List.cons.inj same).1
      simp [Piece.fits] at otherFits
    | guarded d =>
      obtain ⟨rfl, rfl⟩ := List.cons.inj (List.cons.inj same).2
      exact ⟨rfl, rfl⟩

/-- A text is cut at the end of a body in one way only. -/
theorem written_unique (quotes : isQuote quote = true) {body other : List Piece} {back otherBack : Text}
    (fitting : ∀ p ∈ body, p.fits quote = true) (otherFitting : ∀ p ∈ other, p.fits quote = true)
    (same : body.flatMap Piece.written ++ quote :: back = other.flatMap Piece.written ++ quote :: otherBack) :
    body = other ∧ back = otherBack := by
  induction body generalizing other with
  | nil =>
    cases other with
    | nil => exact ⟨rfl, (List.cons.inj same).2⟩
    | cons q other =>
      rw [List.flatMap_cons, List.append_assoc] at same
      exact absurd same.symm (Piece.written_append_ne quotes (otherFitting q List.mem_cons_self) _ _)
  | cons p body ih =>
    obtain ⟨fits, restFitting⟩ := List.forall_mem_cons.mp fitting
    rw [List.flatMap_cons, List.append_assoc] at same
    cases other with
    | nil => exact absurd same (Piece.written_append_ne quotes fits _ _)
    | cons q other =>
      obtain ⟨otherFits, otherRestFitting⟩ := List.forall_mem_cons.mp otherFitting
      rw [List.flatMap_cons, List.append_assoc] at same
      obtain ⟨rfl, rest⟩ := Piece.written_append_inj fits otherFits same
      obtain ⟨rfl, rfl⟩ := ih restFitting otherRestFitting rest
      exact ⟨rfl, rfl⟩

namespace Quotation

theorem not_isQuote (q : Quotation) : ∀ c ∈ q.front, (!isQuote c) = true := by
  intro c member
  simpa using List.any_eq_false.mp q.unquoted c member

theorem takeWhile_expr (q : Quotation) : q.expr.takeWhile (!isQuote ·) = q.front := by
  rw [expr, List.takeWhile_append_of_pos q.not_isQuote, List.takeWhile_cons_of_neg (by simp [q.quotes]),
    List.append_nil]

theorem dropWhile_expr (q : Quotation) :
    q.expr.dropWhile (!isQuote ·) = q.quote :: (q.body.flatMap Piece.written ++ q.quote :: q.back) := by
  rw [expr, List.dropWhile_append_of_pos q.not_isQuote, List.dropWhile_cons_of_neg (by simp [q.quotes])]

theorem first?_expr (q : Quotation) : first? q.expr = some q.content := by
  rw [first?, q.dropWhile_expr]
  exact content?_written q.quotes q.fitting q.back

theorem expr_injective {q other : Quotation} (same : q.expr = other.expr) : q = other := by
  have fronts : q.front = other.front := by rw [← takeWhile_expr, same, takeWhile_expr]
  have cut := dropWhile_expr q
  rw [same, dropWhile_expr, List.cons.injEq] at cut
  obtain ⟨quotes, rest⟩ := cut
  rw [quotes] at rest
  obtain ⟨bodies, backs⟩ := written_unique q.quotes (quotes ▸ other.fitting) q.fitting rest
  cases q
  cases other
  simp_all

end Quotation

theorem exists_quotation_of_first? {expr : Text} (found : first? expr = some content) :
    ∃ q : Quotation, q.expr = expr ∧ q.content = content := by
  rw [first?] at found
  split at found
  · contradiction
  · rename_i quote rest opened
    obtain ⟨body, back, fitting, written, meant⟩ := exists_written_of_content? found
    have unquoted : (expr.takeWhile (!isQuote ·)).any isQuote = false := by
      refine List.any_eq_false.mpr fun c member => ?_
      simpa using List.all_eq_true.mp List.all_takeWhile c member
    have quotes : isQuote quote = true := by
      have head := List.head?_dropWhile_not (fun c => !isQuote c) expr
      rw [opened] at head
      simpa using head
    refine ⟨⟨expr.takeWhile (!isQuote ·), quote, body, back, unquoted, quotes, fitting⟩, ?_, meant⟩
    rw [Quotation.expr, ← written, ← opened, List.takeWhile_append_dropWhile]

theorem flatMap_written_standFor (quote : Char) (content : Text) :
    (content.map (Piece.standFor quote)).flatMap Piece.written = protect quote content := by
  rw [List.flatMap_map, protect]
  refine congrArg (content.flatMap ·) (funext fun c => ?_)
  rw [Piece.standFor]
  split <;> rfl

/-- Scanning finds the content of a literal exactly if the expression can be cut at one, and there is no other way to
cut it. So a content that is put between quotes, with its quotes and backslashes protected, is what is found, whatever
stands behind it and whatever without quotes stands in front. -/
theorem first?_grammatical (expr : Text) :
    (∀ content, first? expr = some content ↔ ∃ q : Quotation, q.expr = expr ∧ q.content = content) ∧
      (first? expr = none ↔ ∀ q : Quotation, q.expr ≠ expr) ∧
      (∀ q other : Quotation, q.expr = expr → other.expr = expr → q = other) ∧
      ∀ (quote : Char) (content front back : Text), isQuote quote = true → front.any isQuote = false →
        first? (front ++ quote :: (protect quote content ++ quote :: back)) = some content := by
  have found : ∀ content, first? expr = some content ↔ ∃ q : Quotation, q.expr = expr ∧ q.content = content := by
    intro content
    constructor
    · exact exists_quotation_of_first?
    · rintro ⟨q, rfl, rfl⟩
      exact q.first?_expr
  refine ⟨found, ?missing, ?unique, ?written⟩
  case missing =>
    constructor
    · rintro missing q rfl
      rw [q.first?_expr] at missing
      contradiction
    · intro uncut
      cases outcome : first? expr with
      | none => rfl
      | some content =>
        obtain ⟨q, cut, _⟩ := (found content).mp outcome
        exact absurd cut (uncut q)
  case unique =>
    intro q other cut otherCut
    exact Quotation.expr_injective (cut.trans otherCut.symm)
  case written =>
    intro quote content front back quotes unquoted
    have fitting : ∀ p ∈ content.map (Piece.standFor quote), p.fits quote = true := by
      intro p member
      obtain ⟨c, _, rfl⟩ := List.mem_map.mp member
      exact Piece.fits_standFor quote c
    let q : Quotation := ⟨front, quote, content.map (Piece.standFor quote), back, unquoted, quotes, fitting⟩
    calc first? (front ++ quote :: (protect quote content ++ quote :: back))
        = first? q.expr := by rw [← flatMap_written_standFor]; rfl
      _ = some q.content := q.first?_expr
      _ = some content := by simp [q, Quotation.content, Function.comp_def, Piece.meant_standFor]

/-- The literal holds a quote of either kind and a backslash; what is behind opens another that is never closed. -/
theorem first?_grammatical_escapes :
    let q : Quotation :=
      { front := "n + ".toList
        quote := '"'
        body := [.plain 'a', .guarded '"', .plain '\'', .guarded '\\', .guarded 'n']
        back := " + 'b".toList
        unquoted := by decide
        quotes := by decide
        fitting := by decide }
    q.expr = "n + \"a\\\"'\\\\\\n\" + 'b".toList ∧
      first? q.expr = some "a\"'\\n".toList ∧
      (∀ other : Quotation, other.expr = q.expr → other = q) ∧
      first? ("n + ".toList ++ '"' :: (protect '"' "a\"'\\n".toList ++ '"' :: " + 'b".toList)) =
        some "a\"'\\n".toList := by
  intro q
  obtain ⟨found, _, unique, _⟩ := first?_grammatical q.expr
  obtain ⟨_, _, _, written⟩ := first?_grammatical []
  exact ⟨by decide, (found _).mpr ⟨q, rfl, by decide⟩, fun other cut => unique other q cut rfl,
    written '"' _ _ _ (by decide) (by decide)⟩

/-- A backslash that is the last character protects nothing, and the literal is not closed. -/
example : first? "x = \"a\\".toList = none := by decide

end Playground.Literal
