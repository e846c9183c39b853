import BuildBlocks.Proofs.Nesting

/-!
# The tree of a page

A page read as a whole: its lexemes are gone through once, with a stack of the blocks that are open.
A closing marker ends the innermost open block, and is text if no block is open. `Element.ofPage`
gives the elements of a page, with the elements of their bodies in them, or the leftmost opening
marker that is never closed.

The spans of a page are what its outermost elements say (`exists_ofPage_or_unterminated`), and the
elements in a block are those of its body read as a page of its own: nothing is lost by cutting
bodies out and reading them again.

## The architecture

* **`build_of_balanced`**: over a balanced part the stack stays as it is, and the elements of the
  part are added to the innermost open block.
* **`build_of_matching_eq_none`**: a block that is never closed is still open in the end.
* **`spans`**: the spans that elements say, with the text between blocks gathered.
* **`exists_children`**: a closed block is one step of the reading; `exists_reads_or_unclosed` follows
  the pairing of markers with it.
-/

namespace BuildBlocks

/-- An element of a page: a character, a closing marker that closes nothing, or a block with the
line of its opening marker and the elements in it. -/
inductive Element where
  | char (c : Char)
  | stray (closing : Text)
  | block (o : Opening) (line : Int) (children : List Element) (closing : Text)

namespace Element

/-- A block that is open: its marker, the line of its marker, and the elements before it in the
block around it, the last one first. -/
structure Frame where
  opening : Opening
  line : Int
  before : List Element

mutual

/-- An element as it is written. -/
def source : Element → Text
  | .char c => [c]
  | .stray t => t
  | .block o _ children t => o.text ++ sources children ++ t

/-- Elements as they are written one after another. -/
def sources : List Element → Text
  | [] => []
  | e :: es => source e ++ sources es

end

/-- Reads lexemes that start on line `line` into elements. `stack` holds the open blocks, the
innermost one first, and `done` the elements in the innermost one so far, the last one first. -/
def build (line : Int) (stack : List Frame) (done : List Element) :
    List Lexeme → Except (Opening × Int) (List Element)
  | [] =>
    match stack.getLast? with
    | none => .ok done.reverse
    | some f => .error (f.opening, f.line)
  | .char c :: ls => build (line + Text.newlines [c]) stack (.char c :: done) ls
  | .opening o :: ls => build (line + Text.newlines o.text) (⟨o, line, done⟩ :: stack) [] ls
  | .closing t :: ls =>
    match stack with
    | [] => build (line + Text.newlines t) [] (.stray t :: done) ls
    | f :: stack =>
      build (line + Text.newlines t) stack (.block f.opening f.line done.reverse t :: f.before) ls

/-- The elements of a page, or the leftmost opening marker that is never closed and its line.
`offset` is the number of lines of the file before the page. -/
def ofPage (word : Text) (offset : Int) (page : Text) : Except (Opening × Int) (List Element) :=
  build (offset + 1) [] [] (Lexeme.lex word page)

/-- What a block says as a directive. `gated` tells which block types read their parameter as a
target list. -/
def directive (gated : Text → Bool) (o : Opening) (line : Int) (children : List Element)
    (closing : Text) : Directive :=
  Directive.ofParts (gated o.kind) line o (sources children) closing

/-- The spans of elements that start at `position`. `gathered` is the text since the last block,
last character first. -/
def spans (gated : Text → Bool) (position : Nat) (gathered : Text) : List Element → List Span
  | [] => Span.withText gathered []
  | .char c :: es => spans gated (position + 1) (c :: gathered) es
  | .stray t :: es => spans gated (position + t.length) (t.reverse ++ gathered) es
  | .block o line children t :: es =>
    let d := directive gated o line children t
    Span.withText gathered
      (.block d position (position + d.text.length) :: spans gated (position + d.text.length) [] es)

/-! ## Balanced parts -/

/-- **Over a balanced part the stack stays as it is.** The elements of the part follow those before
it in the innermost open block. -/
theorem build_of_balanced {ls : List Lexeme} (h : Lexeme.Balanced ls) (line : Int) :
    ∃ es, sources es = Lexeme.texts ls ∧ ∀ stack done rest,
      build line stack done (ls ++ rest) =
        build (line + Text.newlines (Lexeme.texts ls)) stack (es.reverse ++ done) rest := by
  induction h generalizing line with
  | nil => exact ⟨[], rfl, fun stack done rest => by simp [Lexeme.texts, Text.newlines]⟩
  | @char c ls _ ih =>
    obtain ⟨es, hsource, hbuild⟩ := ih (line + Text.newlines [c])
    refine ⟨.char c :: es, ?_, fun stack done rest => ?_⟩
    · rw [sources, hsource, Span.texts_cons]
      rfl
    · rw [List.cons_append, build, hbuild, Lexeme.line_texts_cons, List.reverse_cons,
        List.append_assoc]
      rfl
  | @block o t body after _ _ ihbody ihafter =>
    obtain ⟨children, hsource, hbody⟩ := ihbody (line + Text.newlines o.text)
    obtain ⟨es, hsources, hafter⟩ := ihafter
      (line + Text.newlines o.text + Text.newlines (Lexeme.texts body) + Text.newlines t)
    have htexts : Lexeme.texts (.opening o :: body ++ .closing t :: after) =
        o.text ++ Lexeme.texts body ++ t ++ Lexeme.texts after := by
      rw [Span.texts_block false line, Directive.text_ofParts]
    refine ⟨.block o line children t :: es, ?_, fun stack done rest => ?_⟩
    · rw [sources, source, hsource, hsources, htexts]
    · -- the block is pushed, its body is read on top of it, and the closing marker pops it
      have hlexemes : .opening o :: body ++ .closing t :: after ++ rest =
          .opening o :: (body ++ .closing t :: (after ++ rest)) := by simp
      rw [hlexemes, build, hbody, build, List.append_nil, List.reverse_reverse, hafter, htexts]
      simp only [Text.newlines_append, Int.natCast_add, ← Int.add_assoc, List.reverse_cons,
        List.append_assoc, List.singleton_append]

/-- A block that is never closed is still open in the end. -/
theorem build_of_matching_eq_none {n : Nat} {ls : List Lexeme} (h : Piece.matching n ls = none)
    (line : Int) (done : List Element) (f : Frame) (stack : List Frame)
    (hstack : stack.length = n) :
    build line (stack ++ [f]) done ls = .error (f.opening, f.line) := by
  -- `n` is the number of blocks above the frame `f`, which no closing marker reaches
  induction ls generalizing n line done stack with
  | nil => simp [build]
  | cons l ls ih =>
    cases l with
    | char c =>
      simp only [Piece.matching, Option.map_eq_none_iff] at h
      exact ih h _ _ _ hstack
    | opening o =>
      simp only [Piece.matching, Option.map_eq_none_iff] at h
      rw [build, ← List.cons_append]
      exact ih h _ _ _ (by rw [List.length_cons, hstack])
    | closing t =>
      cases stack with
      | nil =>
        subst hstack
        simp [Piece.matching] at h
      | cons g stack =>
        obtain ⟨n, rfl⟩ : ∃ m, n = m + 1 := ⟨stack.length, by rw [← hstack, List.length_cons]⟩
        simp only [Piece.matching, Option.map_eq_none_iff] at h
        rw [List.cons_append, build]
        exact ih h _ _ _ (by simpa using hstack)

/-! ## Elements and spans -/

/-- The elements in a block are those of some of the lexemes, read as a page of their own. -/
def ReadFrom (ls : List Lexeme) : Element → Prop
  | .char _ | .stray _ => True
  | .block o line children _ => ∃ before body after, ls = before ++ body ++ after ∧
      sources children = Lexeme.texts body ∧
        build (line + Text.newlines o.text) [] [] body = .ok children

theorem ReadFrom.append {ls : List Lexeme} {e : Element} (h : ReadFrom ls e) (front : List Lexeme) :
    ReadFrom (front ++ ls) e := by
  cases e with
  | char | stray => trivial
  | block o line children t =>
    obtain ⟨before, body, after, rfl, hbody⟩ := h
    exact ⟨front ++ before, body, after, by simp only [List.append_assoc], hbody⟩

section

variable (gated : Text → Bool) (file : Option Text)

/-- **A block is one step of the reading**, with all its lexemes: the stack is empty again after its
closing marker. -/
theorem exists_children {o : Opening} {t : Text} {rest body after : List Lexeme}
    (h : Piece.matching 0 rest = some (body, t, after)) (line : Int) :
    ∃ children, sources children = Lexeme.texts body ∧
      build (line + Text.newlines o.text) [] [] body = .ok children ∧
        ∀ done, build line [] done (.opening o :: rest) =
          build (line + Text.newlines (directive gated o line children t).text) []
            (.block o line children t :: done) after := by
  obtain ⟨children, hsource, hbody⟩ :=
    build_of_balanced (Lexeme.balanced_of_matching h) (line + Text.newlines o.text)
  refine ⟨children, hsource, ?_, fun done => ?_⟩
  · have hown := hbody [] [] []
    rw [List.append_nil, List.append_nil, build] at hown
    simpa using hown
  · rw [Piece.eq_of_matching h, build, hbody, build, List.append_nil, List.reverse_reverse, directive,
      Directive.text_ofParts, hsource]
    simp only [Text.newlines_append, Int.natCast_add, ← Int.add_assoc]

/-- Lexemes are read into elements that say the spans of the pieces `ps`. -/
structure Reads (ls : List Lexeme) (ps : List Piece) (position : Nat) (line : Int) (gathered : Text)
    (done es : List Element) : Prop where
  build : build line [] done ls = .ok (done.reverse ++ es)
  spans : (Span.ofPieces gated file position line gathered ps).result =
    .ok (spans gated position gathered es)
  inner : ∀ e ∈ es, ReadFrom ls e

/-- Lexemes and their pieces `ps` hold an opening marker that is never closed. -/
structure Unclosed (ls : List Lexeme) (ps : List Piece) (position : Nat) (line : Int)
    (gathered : Text) (done : List Element) (o : Opening) (l : Int) : Prop where
  build : build line [] done ls = .error (o, l)
  spans : (Span.ofPieces gated file position line gathered ps).result =
    .error (.fault (.unterminated o.kind ⟨file, some l, some o.text⟩))

/-- Lexemes are read into elements that say the spans of their pieces, or they hold an opening
marker that is never closed. -/
theorem exists_reads_or_unclosed (ls : List Lexeme) (position : Nat) (line : Int)
    (gathered : Text) (done : List Element) :
    (∃ es, Reads gated file ls (Piece.ofLexemes ls) position line gathered done es) ∨
      ∃ o l, Unclosed gated file ls (Piece.ofLexemes ls) position line gathered done o l := by
  -- the induction follows the pairing of markers: a block is one step of it, with all its lexemes
  fun_induction Piece.ofLexemes ls generalizing position line gathered done with
  | case1 => exact .inl ⟨[], by simp [build], rfl, by simp⟩
  | case2 c rest ih =>
    rcases ih (position + 1) (line + Text.newlines [c]) (c :: gathered) (.char c :: done) with
      ⟨es, hreads⟩ | ⟨o, l, hunclosed⟩
    · refine .inl ⟨.char c :: es, ?_, hreads.spans, ?_⟩
      · rw [build, hreads.build, List.reverse_cons, List.append_assoc]
        rfl
      · exact List.forall_mem_cons.2 ⟨trivial, fun e he => (hreads.inner e he).append [.char c]⟩
    · exact .inr ⟨o, l, hunclosed.build, hunclosed.spans⟩
  | case3 u rest ih =>
    have hstep : (Span.ofPieces gated file position line gathered
        (.stray u :: Piece.ofLexemes rest)).result = _ :=
      Span.result_ofPieces_stray position line gathered u (Piece.ofLexemes rest)
    rcases ih (position + u.length) (line + Text.newlines u) (u.reverse ++ gathered)
      (.stray u :: done) with ⟨es, hreads⟩ | ⟨o, l, hunclosed⟩
    · refine .inl ⟨.stray u :: es, ?_, hstep.trans hreads.spans, ?_⟩
      · rw [build, hreads.build, List.reverse_cons, List.append_assoc]
        rfl
      · exact List.forall_mem_cons.2 ⟨trivial, fun e he => (hreads.inner e he).append [.closing u]⟩
    · exact .inr ⟨o, l, hunclosed.build, hstep.trans hunclosed.spans⟩
  | case4 o rest hm =>
    refine .inr ⟨o, line, ?_, rfl⟩
    exact build_of_matching_eq_none hm _ [] ⟨o, line, done⟩ [] rfl
  | case5 o rest body t after hm ih =>
    obtain ⟨children, hsource, hown, hblock⟩ := exists_children gated (o := o) hm line
    have hstep : (Span.ofPieces gated file position line gathered
        (.block o body t :: Piece.ofLexemes after)).result = _ :=
      Span.result_ofPieces_block position line gathered o body t (Piece.ofLexemes after)
    rw [← hsource] at hstep
    have hrest : .opening o :: rest = (.opening o :: body ++ [.closing t]) ++ after := by
      rw [Piece.eq_of_matching hm]
      simp
    rcases ih (position + (directive gated o line children t).text.length)
      (line + Text.newlines (directive gated o line children t).text) []
      (.block o line children t :: done) with ⟨es, hreads⟩ | ⟨o', l, hunclosed⟩
    · refine .inl ⟨.block o line children t :: es, ?_, ?_, List.forall_mem_cons.2 ⟨?_, fun e he => ?_⟩⟩
      · rw [hblock, hreads.build, List.reverse_cons, List.append_assoc]
        rfl
      · exact hstep.trans (congrArg (Except.map _) hreads.spans)
      · exact ⟨[.opening o], body, .closing t :: after, by rw [hrest]; simp, hsource, hown⟩
      · rw [hrest]
        exact (hreads.inner e he).append _
    · refine .inr ⟨o', l, (hblock done).trans hunclosed.build, ?_⟩
      exact hstep.trans (congrArg (Except.map _) hunclosed.spans)

/-- **A page is read into elements that say its spans**, and the elements in a block are those of
its body read as a page of its own; or both readings find the same opening marker that is never
closed. -/
theorem exists_ofPage_or_unterminated (word : Text) (offset : Int) (page : Text) :
    (∃ es, ofPage word offset page = .ok es ∧
      (Span.scan word gated file offset page).result = .ok (spans gated 0 [] es) ∧
        ∀ o l children t, Element.block o l children t ∈ es →
          ofPage word (directive gated o l children t).bodyOffset
            (directive gated o l children t).body = .ok children) ∨
      ∃ o l, ofPage word offset page = .error (o, l) ∧
        (Span.scan word gated file offset page).result =
          .error (.fault (.unterminated o.kind ⟨file, some l, some o.text⟩)) := by
  rcases exists_reads_or_unclosed gated file (Lexeme.lex word page) 0 (offset + 1) [] [] with
    ⟨es, hreads⟩ | ⟨o, l, hunclosed⟩
  · refine .inl ⟨es, hreads.build, hreads.spans, fun o l children t hmem => ?_⟩
    obtain ⟨before, body, after, hlex, hsource, hbody⟩ := hreads.inner _ hmem
    have hline : (directive gated o l children t).bodyOffset + 1 = l + Text.newlines o.text := by
      simp only [directive, Directive.bodyOffset, Directive.ofParts]
      omega
    rw [ofPage, hline, directive, Directive.body_ofParts, hsource,
      Lexeme.lex_texts_of_lex_eq hlex, hbody]
  · exact .inr ⟨o, l, hunclosed.build, hunclosed.spans⟩

end

end Element
end BuildBlocks
