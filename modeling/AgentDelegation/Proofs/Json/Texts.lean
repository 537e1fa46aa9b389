import AgentDelegation.Json.Printer
import AgentDelegation.Proofs.Json.Trees
import Mathlib.Tactic.FinCases

/-!
# Written texts and their trees

Every piece of a written value but a number ends by itself, so it is read as the same tokens whatever
follows it (`Spells`). A value without numbers is therefore cut into the same tokens in both layouts, and of
these the machine builds a tree that is the value again, as long as there is room for its containers.
-/

namespace AgentDelegation.Json

namespace Value

/-- A value without numbers that is nested in at most `depth` containers. -/
inductive Plain : Nat → Value → Prop where
  | null (depth : Nat) : Plain depth .null
  | bool (depth : Nat) (b : Bool) : Plain depth (.bool b)
  | str (depth : Nat) (s : String) : Plain depth (.str s)
  | arr {depth : Nat} {items : List Value} (hitems : ∀ v ∈ items, Plain depth v) : Plain (depth + 1) (.arr items)
  | obj {depth : Nat} {members : Members} (hmembers : ∀ member ∈ members, Plain depth member.2) :
      Plain (depth + 1) (.obj members)

mutual

def tokens : Value → List Token
  | .null => [.null]
  | .bool b => [.bool b]
  | .num n => [.num n]
  | .str s => [.str s]
  | .arr items => .openArray :: (tokensOfItems items ++ [.closeArray])
  | .obj members => .openObject :: (tokensOfMembers members ++ [.closeObject])

def tokensOfItems : List Value → List Token
  | [] => []
  | [v] => v.tokens
  | v :: rest => v.tokens ++ .comma :: tokensOfItems rest

def tokensOfMembers : List (String × Value) → List Token
  | [] => []
  | [(name, v)] => .str name :: .colon :: v.tokens
  | (name, v) :: rest => .str name :: .colon :: (v.tokens ++ .comma :: tokensOfMembers rest)

end

end Value

/-! ### Pieces of text -/

namespace Token

/-- The characters are read as the tokens, whatever follows them. -/
def Spells (cs : List Char) (tokens : List Token) : Prop := ∀ rest, scan (cs ++ rest) = tokens ++ scan rest

namespace Spells

theorem nil : Spells [] [] := fun _ => rfl

theorem append {first second : List Char} {tokens others : List Token} (h : Spells first tokens)
    (h' : Spells second others) : Spells (first ++ second) (tokens ++ others) := by
  intro rest
  rw [List.append_assoc, h, h', List.append_assoc]

theorem scan_eq {cs : List Char} {tokens : List Token} (h : Spells cs tokens) : scan cs = tokens := by
  have hcs := h []
  rwa [scan, List.append_nil, List.append_nil] at hcs

theorem space {c : Char} (h : isSpace c = true) : Spells [c] [] := by
  intro rest
  rw [List.singleton_append, scan, if_pos h]
  rfl

theorem spaces {cs : List Char} (h : ∀ c ∈ cs, isSpace c = true) : Spells cs [] := by
  induction cs with
  | nil => exact nil
  | cons c rest ih =>
      obtain ⟨hc, hrest⟩ := List.forall_mem_cons.mp h
      exact (space hc).append (ih hrest)

theorem newLine (level : Nat) : Spells (Value.newLine level) [] := by
  refine spaces fun c hc => ?_
  rcases List.mem_cons.mp hc with rfl | hc
  · rfl
  · rw [List.eq_of_mem_replicate hc]
    rfl

/-- A piece that begins a token and ends with it. -/
theorem of_next {c : Char} {cs : List Char} {token : Token} (hc : isSpace c = false)
    (h : ∀ rest, Token.next c (cs ++ rest) = (token, rest)) : Spells (c :: cs) [token] := by
  intro rest
  rw [List.cons_append, scan, if_neg (by simp [hc]), h]
  rfl

theorem punctuation {c : Char} {token : Token} (hc : isSpace c = false) (h : punctuation? c = some token) :
    Spells [c] [token] :=
  of_next hc fun rest => by simp only [Token.next, h, List.nil_append]

theorem null : Spells "null".toList [.null] := of_next rfl fun _ => rfl

theorem bool (b : Bool) : Spells (toString b).toList [.bool b] := by
  cases b with
  | false => exact of_next rfl fun _ => rfl
  | true => exact of_next rfl fun _ => rfl

end Spells

/-! ### Strings -/

theorem number?_unit {n : Nat} (h : n < 0x20) :
    Text.number? 16 ['0', '0', hexDigit (n / 16), hexDigit (n % 16)] = some n := by
  have hall : ∀ n < 0x20, Text.number? 16 ['0', '0', hexDigit (n / 16), hexDigit (n % 16)] = some n := by decide
  exact hall n h

theorem pushUnit_toNat {c : Char} (h : c.toNat < 0x20) (read : List Char) :
    (Draft.mk read none true).pushUnit c.toNat = ⟨c :: read, none, true⟩ := by
  have hfirst : ¬ (0xD800 ≤ c.toNat ∧ c.toNat ≤ 0xDBFF) := by omega
  have hsecond : decide (0xDC00 ≤ c.toNat ∧ c.toNat ≤ 0xDFFF) = false := by
    rw [decide_eq_false_iff_not]
    omega
  simp only [Draft.pushUnit, hsecond, if_neg hfirst, Char.ofNat_toNat, Option.isNone_none, Bool.and_self]

theorem scanString_quote (rest : List Char) (draft : Draft) :
    scanString ('\x22' :: rest) draft = (draft.close, rest) := by
  rw [scanString.eq_def]
  rfl

theorem scanString_plain {c : Char} (hquote : c ≠ '\x22') (hslash : c ≠ '\\') (hcontrol : ¬ c.toNat < 0x20)
    (rest : List Char) (draft : Draft) : scanString (c :: rest) draft = scanString rest (draft.push c) := by
  rw [scanString.eq_def]
  simp only [if_neg hquote, if_neg hslash, if_neg hcontrol]

theorem scanString_unit {a b c d : Char} {n : Nat} (h : Text.number? 16 [a, b, c, d] = some n) (rest : List Char)
    (draft : Draft) :
    scanString ('\\' :: 'u' :: a :: b :: c :: d :: rest) draft = scanString rest (draft.pushUnit n) := by
  rw [scanString.eq_def]
  simp [h]

/-- A written character is read as itself. -/
theorem scanString_escapedChar (c : Char) (rest read : List Char) :
    scanString (escapedChar c ++ rest) ⟨read, none, true⟩ = scanString rest ⟨c :: read, none, true⟩ := by
  -- The characters with an escape of their own are read one by one, the others by their number.
  by_cases hspecial : c ∈ ['\x22', '\\', '\n', '\r', '\t', '\x08', '\x0c']
  · fin_cases hspecial <;> (rw [scanString.eq_def]; rfl)
  simp only [List.mem_cons, List.not_mem_nil, or_false, not_or] at hspecial
  obtain ⟨hquote, hslash, hfeed, hreturn, htab, hback, hform⟩ := hspecial
  rw [escapedChar, if_neg hquote, if_neg hslash, if_neg hfeed, if_neg hreturn, if_neg htab, if_neg hback,
    if_neg hform]
  by_cases hcontrol : c.toNat < 0x20
  · rw [if_pos hcontrol, ← pushUnit_toNat hcontrol]
    exact scanString_unit (number?_unit hcontrol) rest _
  · rw [if_neg hcontrol, List.singleton_append, scanString_plain hquote hslash hcontrol]
    rfl

theorem scanString_escaped (cs rest read : List Char) :
    scanString (cs.flatMap escapedChar ++ '\x22' :: rest) ⟨read, none, true⟩
      = (.str (String.ofList (read.reverse ++ cs)), rest) := by
  induction cs generalizing read with
  | nil => rw [List.flatMap_nil, List.nil_append, scanString_quote, List.append_nil]; rfl
  | cons c cs ih => rw [List.flatMap_cons, List.append_assoc, scanString_escapedChar, ih]; simp

theorem Spells.str (s : String) : Spells (stringChars s) [.str s] := by
  refine .of_next rfl fun rest => ?_
  have hread := scanString_escaped s.toList rest []
  rw [List.reverse_nil, List.nil_append, String.ofList_toList] at hread
  rw [List.append_assoc]
  exact hread

end Token

/-! ### Values -/

namespace Value

open Token (Spells)

theorem spells_comma : Spells [','] [.comma] := .punctuation rfl rfl

theorem spells_compactItems {items : List Value} (h : ∀ v ∈ items, Spells v.compactChars v.tokens) :
    Spells (compactItems items) (tokensOfItems items) := by
  induction items with
  | nil => exact .nil
  | cons v rest ih =>
      obtain ⟨hv, hrest⟩ := List.forall_mem_cons.mp h
      cases rest with
      | nil => exact hv
      | cons w more => exact hv.append (spells_comma.append (ih hrest))

theorem spells_compactMembers {members : Members}
    (h : ∀ member ∈ members, Spells member.2.compactChars member.2.tokens) :
    Spells (compactMembers members) (tokensOfMembers members) := by
  induction members with
  | nil => exact .nil
  | cons member rest ih =>
      obtain ⟨name, v⟩ := member
      obtain ⟨hv, hrest⟩ := List.forall_mem_cons.mp h
      have hname : Spells (stringChars name ++ [':']) [.str name, .colon] :=
        (Spells.str name).append (.punctuation rfl rfl)
      cases rest with
      | nil =>
          have hmember := hname.append hv
          rwa [List.append_assoc] at hmember
      | cons w more =>
          have hmembers := hname.append (hv.append (spells_comma.append (ih hrest)))
          rwa [List.append_assoc] at hmembers

theorem Plain.spells_compact {depth : Nat} {v : Value} (h : v.Plain depth) : Spells v.compactChars v.tokens := by
  induction h with
  | null => exact .null
  | bool depth b => exact .bool b
  | str depth s => exact .str s
  | arr _ ih =>
      have hopen : Spells ['['] [.openArray] := .punctuation rfl rfl
      exact hopen.append ((spells_compactItems ih).append (.punctuation rfl rfl))
  | obj _ ih =>
      have hopen : Spells ['\x7b'] [.openObject] := .punctuation rfl rfl
      exact hopen.append ((spells_compactMembers ih).append (.punctuation rfl rfl))

theorem spells_prettyItems {level : Nat} {items : List Value}
    (h : ∀ v ∈ items, Spells (v.prettyChars level) v.tokens) :
    Spells (prettyItems level items) (tokensOfItems items) := by
  induction items with
  | nil => exact .nil
  | cons v rest ih =>
      obtain ⟨hv, hrest⟩ := List.forall_mem_cons.mp h
      have hline := (Spells.newLine level).append hv
      cases rest with
      | nil => exact hline
      | cons w more => exact hline.append (spells_comma.append (ih hrest))

theorem spells_prettyMembers {level : Nat} {members : Members}
    (h : ∀ member ∈ members, Spells (member.2.prettyChars level) member.2.tokens) :
    Spells (prettyMembers level members) (tokensOfMembers members) := by
  induction members with
  | nil => exact .nil
  | cons member rest ih =>
      obtain ⟨name, v⟩ := member
      obtain ⟨hv, hrest⟩ := List.forall_mem_cons.mp h
      have hcolon : Spells [':', ' '] [.colon] :=
        (Spells.punctuation rfl rfl : Spells [':'] [.colon]).append (.space rfl)
      have hmember := (((Spells.newLine level).append (.str name)).append hcolon).append hv
      cases rest with
      | nil => exact hmember
      | cons w more => exact hmember.append (spells_comma.append (ih hrest))

theorem Plain.spells_pretty {depth : Nat} {v : Value} (h : v.Plain depth) (level : Nat) :
    Spells (v.prettyChars level) v.tokens := by
  induction h generalizing level with
  | null => exact .null
  | bool depth b => exact .bool b
  | str depth s => exact .str s
  | @arr depth items _ ih =>
      have hopen : Spells ['['] [.openArray] := .punctuation rfl rfl
      have hclose : Spells [']'] [.closeArray] := .punctuation rfl rfl
      cases items with
      | nil => exact hopen.append hclose
      | cons v rest =>
          have hitems := (spells_prettyItems fun v hv => ih v hv (level + 1)).append (.newLine level)
          rw [List.append_nil] at hitems
          exact hopen.append (hitems.append hclose)
  | @obj depth members _ ih =>
      have hopen : Spells ['\x7b'] [.openObject] := .punctuation rfl rfl
      have hclose : Spells ['\x7d'] [.closeObject] := .punctuation rfl rfl
      cases members with
      | nil => exact hopen.append hclose
      | cons member rest =>
          have hmembers :=
            (spells_prettyMembers fun member hmember => ih member hmember (level + 1)).append (.newLine level)
          rw [List.append_nil] at hmembers
          exact hopen.append (hmembers.append hclose)

end Value

/-! ### Trees -/

namespace Source

open Value (tokensOfItems tokensOfMembers)

/-- What comes of a step and the tokens after it. -/
def resume (step : Step) (rest : List Token) : Source × Bool :=
  match step with
  | .wait want stack => build want stack rest
  | .done root => (root, !rest.isEmpty)

theorem build_cons (want : Want) (stack : List Frame) (token : Token) (rest : List Token) :
    build want stack (token :: rest) = resume (step want stack token) rest := rfl

/-- Wherever a value is wanted, and as long as there is room for `depth` more containers, the machine makes
the tree of the tokens. -/
def Makes (depth : Nat) (tokens : List Token) (n : Source) : Prop :=
  ∀ want stack rest, want = .value ∨ want = .firstItem → stack.length + depth ≤ depthLimit →
    build want stack (tokens ++ rest) = resume (complete n stack) rest

/-- A single token that is a value by itself. -/
theorem makes_of_step {depth : Nat} {token : Token} {n : Source}
    (h : ∀ want stack, want = .value ∨ want = .firstItem → step want stack token = complete n stack) :
    Makes depth [token] n := by
  intro want stack rest hwant _
  rw [List.singleton_append, build_cons, h want stack hwant]

theorem bury_of_room {depth : Nat} {stack : List Frame} (h : stack.length + (depth + 1) ≤ depthLimit)
    (container : Source) : bury stack container = container :=
  if_neg (by omega)

/-- The tokens of a value make a tree that is kept as the value. -/
def Rebuilt (depth : Nat) (v : Value) : Prop := ∃ n, n.buffer = .ok v ∧ Makes depth v.tokens n

theorem build_items {depth : Nat} {items : List Value} (hne : items ≠ []) (h : ∀ v ∈ items, Rebuilt depth v) :
    ∃ sources, bufferItems sources none = .ok items ∧
      ∀ want done outer rest, want = .value ∨ want = .firstItem → outer.length + (depth + 1) ≤ depthLimit →
        build want (.arr done :: outer) (tokensOfItems items ++ rest)
          = build .next (.arr (sources.reverse ++ done) :: outer) rest := by
  induction items with
  | nil => exact absurd rfl hne
  | cons v more ih =>
      obtain ⟨⟨n, hn, hmakes⟩, hmore⟩ := List.forall_mem_cons.mp h
      have hfirst : ∀ want done outer rest, want = .value ∨ want = .firstItem →
          outer.length + (depth + 1) ≤ depthLimit →
            build want (.arr done :: outer) (v.tokens ++ rest) = build .next (.arr (n :: done) :: outer) rest := by
        intro want done outer rest hwant hroom
        refine hmakes want _ rest hwant ?_
        rw [List.length_cons]
        omega
      -- Only the first item may stand where the array could end; behind a comma there must be another.
      cases more with
      | nil => exact ⟨[n], by simp [bufferItems, hn, Except.map], hfirst⟩
      | cons w others =>
          obtain ⟨sources, hsources, hbuild⟩ := ih (List.cons_ne_nil _ _) hmore
          refine ⟨n :: sources, by rw [bufferItems, hn, hsources]; rfl, fun want done outer rest hwant hroom => ?_⟩
          rw [List.reverse_cons, List.append_assoc, List.singleton_append,
            ← hbuild .value (n :: done) outer rest (.inl rfl) hroom]
          change build want _ ((v.tokens ++ .comma :: tokensOfItems (w :: others)) ++ rest) = _
          rw [List.append_assoc, hfirst want done outer _ hwant hroom]
          rfl

theorem build_members {depth : Nat} {members : Members} (hne : members ≠ [])
    (h : ∀ member ∈ members, Rebuilt depth member.2) :
    ∃ sources, bufferMembers sources none = .ok members ∧
      ∀ want done name readable outer rest, want = .firstName ∨ want = .nextName →
        outer.length + (depth + 1) ≤ depthLimit →
          build want (.obj done name readable :: outer) (tokensOfMembers members ++ rest)
            = build .next (.obj (sources.reverse ++ done) "" true :: outer) rest := by
  induction members with
  | nil => exact absurd rfl hne
  | cons member more ih =>
      obtain ⟨label, v⟩ := member
      obtain ⟨⟨n, hn, hmakes⟩, hmore⟩ := List.forall_mem_cons.mp h
      have hfirst : ∀ want done name readable outer rest, want = .firstName ∨ want = .nextName →
          outer.length + (depth + 1) ≤ depthLimit →
            build want (.obj done name readable :: outer) (.str label :: .colon :: (v.tokens ++ rest))
              = build .next (.obj ((label, n) :: done) "" true :: outer) rest := by
        intro want done name readable outer rest hwant hroom
        have hinside : (Frame.obj done label true :: outer).length + depth ≤ depthLimit := by
          rw [List.length_cons]
          omega
        have hvalue := hmakes .value _ rest (.inl rfl) hinside
        rcases hwant with rfl | rfl <;> exact hvalue
      cases more with
      | nil => exact ⟨[(label, n)], by simp [bufferMembers, hn, Except.map], hfirst⟩
      | cons other others =>
          obtain ⟨sources, hsources, hbuild⟩ := ih (List.cons_ne_nil _ _) hmore
          refine ⟨(label, n) :: sources, by rw [bufferMembers, hn, hsources]; rfl, ?_⟩
          intro want done name readable outer rest hwant hroom
          rw [List.reverse_cons, List.append_assoc, List.singleton_append,
            ← hbuild .nextName ((label, n) :: done) "" true outer rest (.inr rfl) hroom]
          change build want _
            (.str label :: .colon :: ((v.tokens ++ .comma :: tokensOfMembers (other :: others)) ++ rest)) = _
          rw [List.append_assoc, hfirst want done name readable outer _ hwant hroom]
          rfl

theorem rebuilt_arr {depth : Nat} {items : List Value} (h : ∀ v ∈ items, Rebuilt depth v) :
    Rebuilt (depth + 1) (.arr items) := by
  by_cases hne : items = []
  · subst hne
    refine ⟨.arr [] none, rfl, fun want stack rest hwant hroom => ?_⟩
    have hclose : build .firstItem (.arr [] :: stack) (.closeArray :: rest)
        = resume (complete (bury stack (.arr [] none)) stack) rest := rfl
    rw [bury_of_room hroom] at hclose
    rcases hwant with rfl | rfl <;> exact hclose
  · obtain ⟨sources, hsources, hbuild⟩ := build_items hne h
    refine ⟨.arr sources none, by rw [buffer, hsources]; rfl, fun want stack rest hwant hroom => ?_⟩
    have hinside := hbuild .firstItem [] stack (.closeArray :: rest) (.inr rfl) hroom
    have hclose : build .next (.arr (sources.reverse ++ []) :: stack) (.closeArray :: rest)
        = resume (complete (bury stack (.arr (sources.reverse ++ []).reverse none)) stack) rest := rfl
    rw [List.append_nil, List.reverse_reverse, bury_of_room hroom] at hclose
    rw [List.append_nil, hclose] at hinside
    have htokens : (Value.arr items).tokens ++ rest
        = .openArray :: (tokensOfItems items ++ .closeArray :: rest) := by simp [Value.tokens]
    rw [htokens, ← hinside]
    rcases hwant with rfl | rfl <;> rfl

theorem rebuilt_obj {depth : Nat} {members : Members} (h : ∀ member ∈ members, Rebuilt depth member.2) :
    Rebuilt (depth + 1) (.obj members) := by
  by_cases hne : members = []
  · subst hne
    refine ⟨.obj [] none, rfl, fun want stack rest hwant hroom => ?_⟩
    have hclose : build .firstName (.obj [] "" true :: stack) (.closeObject :: rest)
        = resume (complete (bury stack (.obj [] none)) stack) rest := rfl
    rw [bury_of_room hroom] at hclose
    rcases hwant with rfl | rfl <;> exact hclose
  · obtain ⟨sources, hsources, hbuild⟩ := build_members hne h
    refine ⟨.obj sources none, by rw [buffer, hsources]; rfl, fun want stack rest hwant hroom => ?_⟩
    have hinside := hbuild .firstName [] "" true stack (.closeObject :: rest) (.inl rfl) hroom
    have hclose : build .next (.obj (sources.reverse ++ []) "" true :: stack) (.closeObject :: rest)
        = resume (complete (bury stack (.obj (sources.reverse ++ []).reverse none)) stack) rest := rfl
    rw [List.append_nil, List.reverse_reverse, bury_of_room hroom] at hclose
    rw [List.append_nil, hclose] at hinside
    have htokens : (Value.obj members).tokens ++ rest
        = .openObject :: (tokensOfMembers members ++ .closeObject :: rest) := by simp [Value.tokens]
    rw [htokens, ← hinside]
    rcases hwant with rfl | rfl <;> rfl

end Source

theorem Value.Plain.rebuilt {depth : Nat} {v : Value} (h : v.Plain depth) : Source.Rebuilt depth v := by
  induction h with
  | null =>
      refine ⟨.null, rfl, Source.makes_of_step fun want stack hwant => ?_⟩
      rcases hwant with rfl | rfl <;> rfl
  | bool depth b =>
      refine ⟨.bool b, rfl, Source.makes_of_step fun want stack hwant => ?_⟩
      rcases hwant with rfl | rfl <;> rfl
  | str depth s =>
      refine ⟨.str s, rfl, Source.makes_of_step fun want stack hwant => ?_⟩
      rcases hwant with rfl | rfl <;> rfl
  | arr _ ih => exact Source.rebuilt_arr ih
  | obj _ ih => exact Source.rebuilt_obj ih

/-- A text with the tokens of a plain value that is not nested too deep is a document of its own, and kept
whole it is the value again. -/
theorem Document.exists_ofText {depth : Nat} {v : Value} (h : v.Plain depth) (hdepth : depth ≤ Source.depthLimit)
    {text : String} (hspells : Token.Spells text.toList v.tokens) :
    ∃ root, ofText text = ⟨root, false⟩ ∧ root.buffer = .ok v := by
  obtain ⟨root, hroot, hmakes⟩ := h.rebuilt
  refine ⟨root, ?_, hroot⟩
  refine Document.ofText_of_scan hspells.scan_eq ?_
  have hbuild := hmakes .value [] [] (.inl rfl) (by simpa using hdepth)
  rwa [List.append_nil] at hbuild

end AgentDelegation.Json
