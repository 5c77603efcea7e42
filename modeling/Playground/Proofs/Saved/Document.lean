import Playground.Proofs.Saved.Reading
import Playground.Proofs.Yaml.Lines
import Playground.Proofs.Yaml.Number
import Playground.Saved.Document

namespace Playground.Saved

open Yaml

theorem isWord_category (c : Category) : IsWord c.name.toList := by cases c <;> decide

theorem means_category (c : Category) : Meaning.ofText c.name.toList = .text := by cases c <;> decide

theorem isWord_style (s : Style) : IsWord s.name.toList := by cases s <;> decide

theorem means_style (s : Style) : Meaning.ofText s.name.toList = .text := by cases s <;> decide

theorem map_unified_word {t : Text} (word : IsWord t) : t.map unified = t := by
  refine map_unified fun member => ?_
  have other := not_mem_of_wordChar ['\u0085'] (word.chars _ member) (by decide)
  simp at other

/-- The token that a text gives. -/
def textToken (t : Text) : Token := .scalar (returned t) (ScalarStyle.ofText t == .plain)

section
variable (column : Nat) (indent : Int) (outers : List Int) {next : Nat} {tail key word : Text} {ts : List Token}

theorem lineGives_textEntry (gives : LineGives next tail column (outersAt column indent outers) ts)
    (less : next ≤ column) (isKey : IsKey key) (settled : indent ≤ column) (narrow : column + 2 < lineWidth)
    (t : Text) :
    LineGives column ((textEntry (List.replicate column ' ') key t).map unified ++ tail) indent outers
      (keyTokens column indent key ++ textToken t :: ts) := by
  have value : StandsAsValue column (column + key.length + 2) _ _ _ :=
    standsAsValue_rendered (show 0 < column + 2 by omega) narrow (by omega) (by omega) (by omega) t
  have entry := gives.entry less isKey settled value
  have written : (textEntry (List.replicate column ' ') key t).map unified ++ tail =
      List.replicate column ' ' ++ (key ++ ':' :: ' ' ::
        ((renderScalar (column + 2) (column + key.length + 2) t).map unified ++ '\n' :: tail)) := by
    simp [textEntry, map_unified_word isKey.word, Nat.add_assoc]
  rw [written]
  exact entry

theorem map_unified_wordEntry {indentation : Text} (none : '\u0085' ∉ indentation) (isKey : IsKey key)
    (isWord : IsWord word) :
    (wordEntry indentation key word).map unified = indentation ++ (key ++ ':' :: ' ' :: (word ++ ['\n'])) := by
  simp [wordEntry, map_unified none, map_unified_word isKey.word, map_unified_word isWord]

theorem lineGives_wordEntry (gives : LineGives next tail column (outersAt column indent outers) ts)
    (less : next ≤ column) (isKey : IsKey key) (settled : indent ≤ column) (isWord : IsWord word) :
    LineGives column ((wordEntry (List.replicate column ' ') key word).map unified ++ tail) indent outers
      (keyTokens column indent key ++ .scalar word true :: ts) := by
  have value : StandsAsValue column (column + key.length + 2) _ _ _ :=
    standsAsValue_word isWord (by omega) (by omega)
  have entry := gives.entry less isKey settled value
  rw [map_unified_wordEntry (by simp) isKey isWord]
  simpa using entry

/-- The first entry of an item, behind the dash. -/
theorem lineGives_dashEntry (gives : LineGives next tail (column + 2 : Nat) (column :: outers) ts)
    (less : next ≤ column + 2) (isKey : IsKey key) (isWord : IsWord word) :
    LineGives column ((wordEntry (List.replicate column ' ' ++ "- ".toList) key word).map unified ++ tail) column outers
      (.blockEntry :: .blockMappingStart :: keyAnd key (.scalar word true :: ts)) := by
  have opens : (column : Int) < (column + 2 : Nat) := by omega
  have around : outersAt (column + 2) column outers = (column : Int) :: outers := if_pos opens
  have entry := lineGives_wordEntry (column + 2) column outers (around ▸ gives) less isKey (Int.le_of_lt opens) isWord
  rw [map_unified_wordEntry (by simp) isKey isWord, keyTokens_first opens, List.append_assoc] at entry
  rw [map_unified_wordEntry (by simp) isKey isWord]
  simpa using entry.dash

end

variable {next : Nat} {tail : Text} {ts : List Token}

/-- The token that the text of a line gives. -/
def lineToken : Option Text → Token
  | some t => textToken t
  | none => .scalar "null".toList true

/-- The value that comes back for the text of a line. -/
def lineValue : Option Text → Value
  | some t => .str (returned t)
  | none => .null

/-- The entries of a line. -/
def lineMapping (l : Pseudocode.Line) : List Entry :=
  [⟨"category".toList, [.scalar l.category.name.toList true], .str l.category.name.toList⟩,
    ⟨"depth".toList, [.scalar (Text.ofNat l.depth) true], .int l.depth⟩,
    ⟨"text".toList, [lineToken l.text], lineValue l.text⟩]

/-- The entries of a record. -/
def recordMapping (r : Playground.Record) : List Entry :=
  [⟨"style".toList, [.scalar r.style.name.toList true], .str r.style.name.toList⟩,
    ⟨"text".toList, [textToken r.text], .str (returned r.text)⟩]

theorem lineGives_line (gives : LineGives next tail 4 [2, 0, -1] ts) (less : next ≤ 2) (l : Pseudocode.Line) :
    LineGives 2 ((lineEntries l).map unified ++ tail) 2 [0, -1]
      (.blockEntry :: (openTokens (lineMapping l) ++ ts)) := by
  have text : LineGives 4 ((match l.text with
      | some t => textEntry (List.replicate 4 ' ') "text".toList t
      | none => wordEntry (List.replicate 4 ' ') "text".toList "null".toList).map unified ++ tail) 4 [2, 0, -1]
      (keyTokens 4 4 "text".toList ++ lineToken l.text :: ts) := by
    cases l.text with
    | some t => exact lineGives_textEntry 4 4 [2, 0, -1] gives (by omega) (by decide) (by decide) (by decide) t
    | none => exact lineGives_wordEntry 4 4 [2, 0, -1] gives (by omega) (by decide) (by decide) (by decide)
  have depth := lineGives_wordEntry 4 4 [2, 0, -1] text (by omega) (by decide : IsKey "depth".toList) (by decide)
    (isWord_ofNat l.depth)
  have category := lineGives_dashEntry 2 [0, -1] depth (by omega) (by decide : IsKey "category".toList)
    (isWord_category l.category)
  rw [lineEntries, List.map_append, List.map_append, List.append_assoc, List.append_assoc]
  exact category

theorem lineGives_record (gives : LineGives next tail 4 [2, 0, -1] ts) (less : next ≤ 2) (r : Playground.Record) :
    LineGives 2 ((recordEntries r).map unified ++ tail) 2 [0, -1]
      (.blockEntry :: (openTokens (recordMapping r) ++ ts)) := by
  have text := lineGives_textEntry 4 4 [2, 0, -1] gives (by omega) (by decide : IsKey "text".toList) (by decide)
    (by decide) r.text
  have style := lineGives_dashEntry 2 [0, -1] text (by omega) (by decide : IsKey "style".toList)
    (isWord_style r.style)
  rw [recordEntries, List.map_append, List.append_assoc]
  exact style

/-- The tokens of a sequence of mappings. -/
def itemsTokens (items : List (List Entry)) : List Token :=
  items.flatMap fun entries => .blockEntry :: mappingTokens entries

/-- The entries of pseudocode. -/
def programMapping (p : Pseudocode.Program) : List Entry :=
  [⟨"lines".toList, itemsTokens (p.lines.map lineMapping),
      .list (p.lines.map fun l => .map (Value.keyed (mappingOf (lineMapping l))))⟩,
    ⟨"final_depth".toList, [.scalar (Text.ofNat p.finalDepth) true], .int p.finalDepth⟩,
    ⟨"text".toList, [textToken p.text], .str (returned p.text)⟩]

/-- The entries of simulated output. -/
def simulationMapping (rs : List Playground.Record) : List Entry :=
  [⟨"records".toList, itemsTokens (rs.map recordMapping),
    .list (rs.map fun r => .map (Value.keyed (mappingOf (recordMapping r))))⟩]

/-- The entries of a run. -/
def runMapping (r : Playground.Run) : List Entry :=
  [⟨"source".toList, [textToken r.source], .str (returned r.source)⟩,
    ⟨"transpiled".toList, mappingTokens (programMapping r.program),
      .map (Value.keyed (mappingOf (programMapping r.program)))⟩,
    ⟨"simulation".toList, mappingTokens (simulationMapping r.records),
      .map (Value.keyed (mappingOf (simulationMapping r.records)))⟩]

theorem lineGives_records {rs : List Playground.Record} (some : rs ≠ []) :
    LineGives 2 ((rs.flatMap recordEntries).map unified) 2 [0, -1]
      (itemsTokens (rs.map recordMapping) ++ [.blockEnd, .blockEnd]) := by
  have ends : LineGives 0 [] 4 [2, 0, -1] (.blockEnd :: [.blockEnd, .blockEnd]) := lineGives_end rfl
  have long (r : Playground.Record) : 2 < ((recordEntries r).map unified).length := by
    simp [recordEntries, wordEntry]
  have items := LineGives.items 2 [0, -1] ends (by omega) some (by decide) (fun r _ => long r)
    fun r _ next tail ts gives less => lineGives_record gives less r
  rw [List.append_nil] at items
  rw [List.map_flatMap, itemsTokens, List.flatMap_map]
  exact items

theorem lineGives_simulation {rs : List Playground.Record} (some : rs ≠ []) :
    LineGives 0 (("simulation:\n  records:\n".toList ++ rs.flatMap recordEntries).map unified) 0 [-1]
      (keyAnd "simulation".toList (mappingTokens (simulationMapping rs) ++ [.blockEnd])) := by
  have records := LineGives.nested 2 0 [-1] (lineGives_records some) (by decide : IsKey "records".toList) (by decide)
  have simulation := LineGives.nested 0 0 [-1] records (by decide : IsKey "simulation".toList) (by decide)
  rw [List.map_append]
  have tokens : mappingTokens (simulationMapping rs) ++ [.blockEnd] =
      keyTokens 2 0 "records".toList ++ (itemsTokens (rs.map recordMapping) ++ [.blockEnd, .blockEnd]) := by
    simp [mappingTokens, openTokens, entriesTokens, simulationMapping, keyTokens, keyAnd]
  rw [tokens]
  exact simulation

theorem lineGives_lines {ls : List Pseudocode.Line} (some : ls ≠ []) (gives : LineGives 2 tail 2 [0, -1] ts)
    (long : 2 < tail.length) :
    LineGives 2 ((ls.flatMap lineEntries).map unified ++ tail) 2 [0, -1] (itemsTokens (ls.map lineMapping) ++ ts) := by
  have closes : Scan.closeBlocks (2 : Nat) 4 [2, 0, -1] = (2, [0, -1], [.blockEnd]) := rfl
  have last := gives.unwind closes (by decide) long
  have long (l : Pseudocode.Line) : 2 < ((lineEntries l).map unified).length := by
    simp [lineEntries, wordEntry]
  have items := LineGives.items 2 [0, -1] last (by omega) some (by decide) (fun l _ => long l)
    fun l _ next tail ts gives less => lineGives_line gives less l
  rw [List.map_flatMap, itemsTokens, List.flatMap_map]
  exact items

theorem lineGives_program {p : Pseudocode.Program} (some : p.lines ≠ []) (gives : LineGives 0 tail 0 [-1] ts)
    (long : 0 < tail.length) :
    LineGives 0 (("transpiled:\n  lines:\n".toList ++ p.lines.flatMap lineEntries ++
        wordEntry "  ".toList "final_depth".toList (Text.ofNat p.finalDepth) ++
          textEntry "  ".toList "text".toList p.text).map unified ++ tail) 0 [-1]
      (keyAnd "transpiled".toList (mappingTokens (programMapping p) ++ ts)) := by
  have closes : Scan.closeBlocks (0 : Nat) 2 [0, -1] = (0, [-1], [.blockEnd]) := rfl
  have last := gives.unwind closes (by decide) long
  have text := lineGives_textEntry 2 2 [0, -1] last (by omega) (by decide : IsKey "text".toList) (by decide)
    (by decide) p.text
  have finalDepth := lineGives_wordEntry 2 2 [0, -1] text (by omega) (by decide : IsKey "final_depth".toList)
    (by decide) (isWord_ofNat p.finalDepth)
  have lines := LineGives.nested 2 0 [-1] (lineGives_lines some finalDepth (by simp [wordEntry]))
    (by decide : IsKey "lines".toList) (by decide)
  have transpiled := LineGives.nested 0 0 [-1] lines (by decide : IsKey "transpiled".toList) (by decide)
  have tokens : mappingTokens (programMapping p) ++ ts = keyTokens 2 0 "lines".toList ++
      (itemsTokens (p.lines.map lineMapping) ++
        (keyTokens 2 2 "final_depth".toList ++ .scalar (Text.ofNat p.finalDepth) true ::
          (keyTokens 2 2 "text".toList ++ textToken p.text :: (.blockEnd :: ts)))) := by
    simp [mappingTokens, openTokens, entriesTokens, programMapping, keyTokens, keyAnd]
  rw [tokens]
  simp only [List.map_append, List.append_assoc] at transpiled ⊢
  exact transpiled

/-- The lines of a document give the tokens of a mapping with all parts of the run. -/
theorem lineGives_document {r : Playground.Run} (lines : r.program.lines ≠ []) (records : r.records ≠ []) :
    LineGives 0 ((document r).map unified) (-1) [] (mappingTokens (runMapping r)) := by
  have simulation := lineGives_simulation records
  have program := lineGives_program lines simulation (by simp)
  have source := lineGives_textEntry 0 (-1) [] program (by omega) (by decide : IsKey "source".toList) (by decide)
    (by decide) r.source
  have tokens : mappingTokens (runMapping r) = keyTokens 0 (-1) "source".toList ++ textToken r.source ::
      keyAnd "transpiled".toList (mappingTokens (programMapping r.program) ++
        keyAnd "simulation".toList (mappingTokens (simulationMapping r.records) ++ [.blockEnd])) := by
    simp [mappingTokens, openTokens, entriesTokens, runMapping, keyTokens, keyAnd]
  have written : document r = textEntry [] "source".toList r.source ++
      (("transpiled:\n  lines:\n".toList ++ r.program.lines.flatMap lineEntries ++
        wordEntry "  ".toList "final_depth".toList (Text.ofNat r.program.finalDepth) ++
          textEntry "  ".toList "text".toList r.program.text) ++
        ("simulation:\n  records:\n".toList ++ r.records.flatMap recordEntries)) := by
    simp only [document, List.append_assoc]
  rw [written, List.map_append, List.map_append, tokens]
  exact source

theorem describes_text (t : Text) : Describes [textToken t] (.str (returned t)) :=
  describes_scalar (scalarValue_returned t)

theorem describes_name {t : Text} (means : Meaning.ofText t = .text) : Describes [.scalar t true] (.str t) := by
  refine describes_scalar ?_
  rw [scalarValue, means]
  rfl

theorem describes_line {l : Pseudocode.Line} (short : Decimal.IsShort l.depth) :
    Describes (mappingTokens (lineMapping l)) (.map (Value.keyed (mappingOf (lineMapping l)))) := by
  have text : Describes [lineToken l.text] (lineValue l.text) := by
    cases l.text with
    | some t => exact describes_text t
    | none => exact describes_scalar rfl
  refine describes_mapping ["category".toList, "depth".toList, "text".toList] rfl (by decide) (by decide) ?_
  simp only [lineMapping, List.forall_mem_cons]
  exact ⟨(describes_name (means_category l.category)).value, (describes_scalar (scalarValue_ofNat short)).value,
    text.value, by simp⟩

theorem describes_record (r : Playground.Record) :
    Describes (mappingTokens (recordMapping r)) (.map (Value.keyed (mappingOf (recordMapping r)))) := by
  refine describes_mapping ["style".toList, "text".toList] rfl (by decide) (by decide) ?_
  simp only [recordMapping, List.forall_mem_cons]
  exact ⟨(describes_name (means_style r.style)).value, (describes_text r.text).value, by simp⟩

theorem describesValue_items {α : Type} {items : List α} {mapping : α → List Entry} (some : items ≠ [])
    (each : ∀ a ∈ items, Describes (mappingTokens (mapping a)) (.map (Value.keyed (mappingOf (mapping a))))) :
    DescribesValue (itemsTokens (items.map mapping))
      (.list (items.map fun a => .map (Value.keyed (mappingOf (mapping a))))) := by
  rw [itemsTokens, List.flatMap_map]
  exact describesValue_sequence some each

theorem describes_program {p : Pseudocode.Program} (some : p.lines ≠ [])
    (lines : ∀ l ∈ p.lines, Decimal.IsShort l.depth) (finalDepth : Decimal.IsShort p.finalDepth) :
    Describes (mappingTokens (programMapping p)) (.map (Value.keyed (mappingOf (programMapping p)))) := by
  refine describes_mapping ["lines".toList, "final_depth".toList, "text".toList] rfl (by decide) (by decide) ?_
  simp only [programMapping, List.forall_mem_cons]
  exact ⟨describesValue_items some fun l member => describes_line (lines l member),
    (describes_scalar (scalarValue_ofNat finalDepth)).value, (describes_text p.text).value, by simp⟩

theorem describes_simulation {rs : List Playground.Record} (some : rs ≠ []) :
    Describes (mappingTokens (simulationMapping rs)) (.map (Value.keyed (mappingOf (simulationMapping rs)))) := by
  refine describes_mapping ["records".toList] rfl (by decide) (by decide) ?_
  simp only [simulationMapping, List.forall_mem_cons]
  exact ⟨describesValue_items some fun r _ => describes_record r, by simp⟩

/-- A run whose depths can be read. -/
structure IsReadable (r : Playground.Run) : Prop where
  lines : r.program.lines ≠ []
  depths : ∀ l ∈ r.program.lines, Decimal.IsShort l.depth
  finalDepth : Decimal.IsShort r.program.finalDepth
  records : r.records ≠ []

theorem describes_run {r : Playground.Run} (readable : IsReadable r) :
    Describes (mappingTokens (runMapping r)) (.map (Value.keyed (mappingOf (runMapping r)))) := by
  refine describes_mapping ["source".toList, "transpiled".toList, "simulation".toList] rfl (by decide) (by decide) ?_
  simp only [runMapping, List.forall_mem_cons]
  exact ⟨(describes_text r.source).value, (describes_program readable.lines readable.depths readable.finalDepth).value,
    (describes_simulation readable.records).value, by simp⟩

/-- Only characters that a document may have, and no carriage return. -/
def IsWritable (t : Text) : Prop := ∀ c ∈ t, isAllowed c = true ∧ c ≠ '\r'

instance (t : Text) : Decidable (IsWritable t) :=
  decidable_of_iff (t.all (fun c => isAllowed c && c != '\r') = true) (by simp [IsWritable])

theorem IsWritable.append {t u : Text} (front : IsWritable t) (back : IsWritable u) : IsWritable (t ++ u) := by
  intro c member
  rcases List.mem_append.mp member with inFront | inBack
  · exact front c inFront
  · exact back c inBack

theorem isWritable_flatMap {α : Type} {items : List α} {f : α → Text} (each : ∀ a ∈ items, IsWritable (f a)) :
    IsWritable (items.flatMap f) := by
  intro c member
  obtain ⟨a, inItems, inText⟩ := List.mem_flatMap.mp member
  exact each a inItems c inText

theorem isWritable_word {t : Text} (word : IsWord t) : IsWritable t := by
  intro c member
  have notReturn : c ≠ '\r' := by simpa using not_mem_of_wordChar ['\r'] (word.chars c member) (by decide)
  refine ⟨?_, notReturn⟩
  rcases word.chars c member with alphanum | rfl
  -- Letters and digits are told by comparing machine words; what is allowed, by comparing numbers.
  · change ((decide (65 ≤ c.val ∧ c.val ≤ 90) || decide (97 ≤ c.val) && decide (c.val ≤ 122)) ||
      decide (48 ≤ c.val) && decide (c.val ≤ 57)) = true at alphanum
    simp only [Bool.or_eq_true, Bool.and_eq_true, decide_eq_true_eq, UInt32.le_iff_toNat_le] at alphanum
    change ((65 ≤ c.toNat ∧ c.toNat ≤ 90) ∨ 97 ≤ c.toNat ∧ c.toNat ≤ 122) ∨ 48 ≤ c.toNat ∧ c.toNat ≤ 57 at alphanum
    simp only [isAllowed, Bool.or_eq_true, Bool.and_eq_true, beq_iff_eq, decide_eq_true_eq]
    omega
  · decide

theorem isWritable_lead {indentation key : Text} (front : IsWritable indentation) (isKey : IsKey key) :
    IsWritable (indentation ++ key ++ ": ".toList) :=
  (front.append (isWritable_word isKey.word)).append (by decide)

theorem isWritable_textEntry {indentation key : Text} (front : IsWritable indentation) (isKey : IsKey key) (t : Text) :
    IsWritable (textEntry indentation key t) := by
  have value {indent column : Nat} : IsWritable (renderScalar indent column t) := fun c member =>
    ⟨(renderScalar_chars member).1, (renderScalar_chars member).2.1⟩
  exact ((isWritable_lead front isKey).append value).append (by decide)

theorem isWritable_wordEntry {indentation key word : Text} (front : IsWritable indentation) (isKey : IsKey key)
    (isWord : IsWord word) : IsWritable (wordEntry indentation key word) :=
  ((isWritable_lead front isKey).append (isWritable_word isWord)).append (by decide)

theorem isWritable_lineEntries (l : Pseudocode.Line) : IsWritable (lineEntries l) := by
  have text : IsWritable (match l.text with
      | some t => textEntry "    ".toList "text".toList t
      | none => wordEntry "    ".toList "text".toList "null".toList) := by
    cases l.text with
    | some t => exact isWritable_textEntry (by decide) (by decide) t
    | none => exact isWritable_wordEntry (by decide) (by decide) (by decide)
  exact ((isWritable_wordEntry (by decide) (by decide) (isWord_category l.category)).append
    (isWritable_wordEntry (by decide) (by decide) (isWord_ofNat l.depth))).append text

theorem isWritable_recordEntries (r : Playground.Record) : IsWritable (recordEntries r) :=
  (isWritable_wordEntry (by decide) (by decide) (isWord_style r.style)).append
    (isWritable_textEntry (by decide) (by decide) r.text)

theorem isWritable_document (r : Playground.Run) : IsWritable (document r) := by
  have source : IsWritable (textEntry [] "source".toList r.source) :=
    isWritable_textEntry (by decide) (by decide) r.source
  have lines : IsWritable (r.program.lines.flatMap lineEntries) :=
    isWritable_flatMap fun l _ => isWritable_lineEntries l
  have finalDepth : IsWritable (wordEntry "  ".toList "final_depth".toList (Text.ofNat r.program.finalDepth)) :=
    isWritable_wordEntry (by decide) (by decide) (isWord_ofNat _)
  have text : IsWritable (textEntry "  ".toList "text".toList r.program.text) :=
    isWritable_textEntry (by decide) (by decide) _
  have records : IsWritable (r.records.flatMap recordEntries) :=
    isWritable_flatMap fun r _ => isWritable_recordEntries r
  exact (((((source.append (by decide)).append lines).append finalDepth).append text).append
    (by decide)).append records

/-- The document of a run is read as a value with all its parts. -/
theorem parse_document {r : Playground.Run} (readable : IsReadable r) :
    parse (document r) = .ok (.map (Value.keyed (mappingOf (runMapping r)))) := by
  have noMark : ((document r).map unified).head? ≠ some '\uFEFF' := by
    simp [document, textEntry, unified]
  exact parse_of_lineGives (isWritable_document r) noMark (lineGives_document readable.lines readable.records)
    (describes_run readable)

end Playground.Saved
