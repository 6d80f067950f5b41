import AgentConsole.Json.Unread

/-!
# Records and tags

A record is read into a draft with one slot a member. An object may name its members in any order
and may have others, which are passed over; a list gives the members in the order of the slots. A
slot is filled once, and a draft with too few of them filled makes no record.
-/

namespace AgentConsole.Json

variable {σ α : Type}

/-- Reads a text. -/
def runText (cs : List Char) : Except Fault (String × List Char) :=
  match dropGaps cs with
  | [] => .error .truncated
  | c :: rest => if c = '"' then literal rest else .error (wrongKind (c :: rest))

theorem runText_shorter {cs rest : List Char} {s : String} (h : runText cs = .ok (s, rest)) :
    rest.length < cs.length := by
  unfold runText at h
  split at h
  · simp at h
  · next hc =>
    split at h
    · exact Nat.lt_trans (literal_shorter h) (length_lt_of_dropGaps hc)
    · simp at h

/-- Reads a text. -/
def text : Reader String :=
  ⟨runText, runText_shorter⟩

/-- Passes over a null. -/
def passNull (cs : List Char) : Except Fault (List Char) :=
  match dropGaps cs with
  | [] => .error .truncated
  | c :: rest => if c = 'n' then passWord ['u', 'l', 'l'] rest else .error (wrongKind (c :: rest))

/-- Passes over a closing bracket. -/
def passClosing (bracket : Bracket) (cs : List Char) : Except Fault (List Char) :=
  match dropGaps cs with
  | [] => .error .truncated
  | c :: rest => if c = bracket.closing then .ok rest else .error .malformed

theorem passNull_le {cs rest : List Char} (h : passNull cs = .ok rest) :
    rest.length ≤ cs.length := by
  unfold passNull at h
  split at h
  · simp at h
  · next hc =>
    have := length_lt_of_dropGaps hc
    split at h
    · have := passWord_le h
      omega
    · simp at h

theorem passClosing_shorter {bracket : Bracket} {cs rest : List Char}
    (h : passClosing bracket cs = .ok rest) : rest.length < cs.length := by
  unfold passClosing at h
  split at h
  · simp at h
  · next hc =>
    split at h
    · simp only [Except.ok.injEq] at h
      exact h ▸ length_lt_of_dropGaps hc
    · simp at h

/-- Reads the name of one of the values. -/
def runName (values : List (String × α)) (cs : List Char) : Except Fault (α × List Char) :=
  match runText cs with
  | .error f => .error f
  | .ok (name, rest) =>
    match values.lookup name with
    | none => .error .mismatch
    | some a => .ok (a, rest)

theorem runName_shorter {values : List (String × α)} {cs rest : List Char} {a : α}
    (h : runName values cs = .ok (a, rest)) : rest.length < cs.length := by
  unfold runName at h
  split at h
  · simp at h
  · next ht =>
    split at h
    · simp at h
    · simp only [Except.ok.injEq, Prod.mk.injEq] at h
      exact h.2 ▸ runText_shorter ht

/-- Reads the name of one of the values where only a name can stand. -/
def runKey (values : List (String × α)) (cs : List Char) : Except Fault (α × List Char) :=
  match dropGaps cs with
  | [] => .error .truncated
  | c :: rest => if c = '"' then runName values (c :: rest) else .error .malformed

theorem runKey_shorter {values : List (String × α)} {cs rest : List Char} {a : α}
    (h : runKey values cs = .ok (a, rest)) : rest.length < cs.length := by
  unfold runKey at h
  have hle := length_dropGaps_le cs
  split at h
  · simp at h
  · next hc =>
    rw [hc] at hle
    split at h
    · exact Nat.lt_of_lt_of_le (runName_shorter h) hle
    · simp at h

/-- Passes over what follows the name of a value that stands in an object. -/
def passTagEnd (cs : List Char) : Except Fault (List Char) := do
  passClosing .object (← passNull (← passColon cs))

theorem passTagEnd_shorter {cs rest : List Char} (h : passTagEnd cs = .ok rest) :
    rest.length < cs.length := by
  unfold passTagEnd at h
  cases hc : passColon cs with
  | error f => simp [hc, bind, Except.bind] at h
  | ok cs₁ =>
    cases hn : passNull cs₁ with
    | error f => simp [hc, hn, bind, Except.bind] at h
    | ok cs₂ =>
      simp only [hc, hn, bind, Except.bind] at h
      have := passColon_shorter hc
      have := passNull_le hn
      have := passClosing_shorter h
      omega

/-- Reads one of the named values: its name, or an object whose one member has that name and is
null. -/
def runTag (values : List (String × α)) (cs : List Char) : Except Fault (α × List Char) :=
  match dropGaps cs with
  | [] => .error .truncated
  | c :: rest =>
    if c = '"' then runName values (c :: rest)
    else if c = '\x7b' then
      match runKey values rest with
      | .error f => .error f
      | .ok (a, rest) =>
        match passTagEnd rest with
        | .error f => .error f
        | .ok rest => .ok (a, rest)
    else .error .malformed

theorem runTag_shorter {values : List (String × α)} {cs rest : List Char} {a : α}
    (h : runTag values cs = .ok (a, rest)) : rest.length < cs.length := by
  unfold runTag at h
  have hle := length_dropGaps_le cs
  split at h
  · simp at h
  · next hc =>
    rw [hc] at hle
    split at h
    · exact Nat.lt_of_lt_of_le (runName_shorter h) hle
    · split at h
      · split at h
        · simp at h
        · next hn =>
          split at h
          · simp at h
          · next he =>
            simp only [Except.ok.injEq, Prod.mk.injEq] at h
            have := runKey_shorter hn
            have := h.2 ▸ passTagEnd_shorter he
            simp only [List.length_cons] at hle
            omega
      · simp at h

/-- Reads one of the named values. -/
def tag (values : List (String × α)) : Reader α :=
  ⟨runTag values, runTag_shorter⟩

/-- A member of a record: its name, whether a draft has it, and how it is read into one. -/
structure Slot (σ : Type) where
  name : String
  isFilled : σ → Bool
  fill : Reader (σ → σ)

/-- Reads the value of the member called `name` into the draft. -/
def runMember (slots : List (Slot σ)) (draft : σ) (name : String) (cs : List Char) :
    Except Fault (σ × List Char) :=
  match slots.find? (·.name = name) with
  | none =>
    match passColon cs with
    | .error f => .error f
    | .ok rest => (passValue [] rest).map (draft, ·)
  | some slot =>
    if slot.isFilled draft then .error .mismatch
    else
      match passColon cs with
      | .error f => .error f
      | .ok rest => (slot.fill.run rest).map fun p => (p.1 draft, p.2)

theorem runMember_shorter {slots : List (Slot σ)} {draft draft' : σ} {name : String}
    {cs rest : List Char} (h : runMember slots draft name cs = .ok (draft', rest)) :
    rest.length < cs.length := by
  unfold runMember at h
  split at h
  · split at h
    · simp at h
    · next rest' hc =>
      cases hv : passValue [] rest' with
      | error f => simp [hv, Except.map] at h
      | ok rest'' =>
        simp only [hv, Except.map, Except.ok.injEq, Prod.mk.injEq] at h
        exact h.2 ▸ Nat.lt_trans (passValue_shorter hv) (passColon_shorter hc)
  · next slot _ =>
    split at h
    · simp at h
    · split at h
      · simp at h
      · next rest' hc =>
        cases hv : slot.fill.run rest' with
        | error f => simp [hv, Except.map] at h
        | ok p =>
          simp only [hv, Except.map, Except.ok.injEq, Prod.mk.injEq] at h
          have : p.2.length < rest'.length := slot.fill.shorter hv
          have := passColon_shorter hc
          rw [← h.2]
          omega

/-- What an object goes on with: another member, whose name starts in what is left, or its end. -/
inductive Onward where
  | name
  | done

/-- Looks for the next name of an object; `first` says that no member came before. -/
def onward (first : Bool) (cs : List Char) : Except Fault (Onward × List Char) :=
  match dropGaps cs with
  | [] => .error .truncated
  | c :: rest =>
    if c = '\x7d' then .ok (.done, rest)
    else if first then if c = '"' then .ok (.name, rest) else .error .malformed
    else if c = ',' then
      match dropGaps rest with
      | [] => .error .truncated
      | d :: rest => if d = '"' then .ok (.name, rest) else .error .malformed
    else .error .malformed

theorem onward_shorter {first : Bool} {cs rest : List Char} {next : Onward}
    (h : onward first cs = .ok (next, rest)) : rest.length < cs.length := by
  unfold onward at h
  split at h
  · simp at h
  · next hc =>
    have hlt := length_lt_of_dropGaps hc
    split at h
    · simp only [Except.ok.injEq, Prod.mk.injEq] at h
      exact h.2 ▸ hlt
    · split at h
      · split at h
        · simp only [Except.ok.injEq, Prod.mk.injEq] at h
          exact h.2 ▸ hlt
        · simp at h
      · split at h
        · split at h
          · simp at h
          · next hd =>
            split at h
            · simp only [Except.ok.injEq, Prod.mk.injEq] at h
              exact h.2 ▸ Nat.lt_trans (length_lt_of_dropGaps hd) hlt
            · simp at h
        · simp at h

/-- Reads the members of an object into the draft, up to its closing bracket. -/
def runMembers (slots : List (Slot σ)) (draft : σ) (first : Bool) (cs : List Char) :
    Except Fault (σ × List Char) :=
  match ho : onward first cs with
  | .error f => .error f
  | .ok (.done, rest) => .ok (draft, rest)
  | .ok (.name, rest) =>
    match hl : literal rest with
    | .error f => .error f
    | .ok (name, rest') =>
      match hm : runMember slots draft name rest' with
      | .error f => .error f
      | .ok (draft', rest'') =>
        have := onward_shorter ho
        have := literal_shorter hl
        have := runMember_shorter hm
        runMembers slots draft' false rest''
  termination_by cs.length

theorem runMembers_shorter {slots : List (Slot σ)} {draft draft' : σ} {first : Bool}
    {cs rest : List Char} (h : runMembers slots draft first cs = .ok (draft', rest)) :
    rest.length < cs.length := by
  fun_induction runMembers slots draft first cs with
  | case1 => simp at h
  | case2 draft first cs rest' ho =>
    simp only [Except.ok.injEq, Prod.mk.injEq] at h
    exact h.2 ▸ onward_shorter ho
  | case3 => simp at h
  | case4 => simp at h
  | case5 draft first cs _ _ _ _ _ _ _ _ _ _ _ ih =>
    have := ih h
    omega

/-- Looks for the next element of a list: `none` at its closing bracket, else where it starts. -/
def element? (first : Bool) (cs : List Char) : Except Fault (Option (List Char)) :=
  match dropGaps cs with
  | [] => .error .truncated
  | c :: rest =>
    if c = ']' then .ok none
    else if first then .ok (some (c :: rest))
    else if c = ',' then
      match dropGaps rest with
      | [] => .error .truncated
      | d :: rest => if d = ']' then .error .malformed else .ok (some (d :: rest))
    else .error .malformed

theorem element?_le {first : Bool} {cs rest : List Char}
    (h : element? first cs = .ok (some rest)) : rest.length ≤ cs.length := by
  unfold element? at h
  have hle := length_dropGaps_le cs
  split at h
  · simp at h
  · next rest' hc =>
    rw [hc, List.length_cons] at hle
    split at h
    · simp at h
    · split at h
      · simp only [Except.ok.injEq, Option.some.injEq] at h
        simpa [← h] using hle
      · split at h
        · have := length_dropGaps_le rest'
          split at h
          · simp at h
          · next hd =>
            rw [hd] at this
            split at h
            · simp at h
            · simp only [Except.ok.injEq, Option.some.injEq] at h
              rw [← h]
              omega
        · simp at h

/-- Reads the elements of a list into the slots, in order, as far as both go. -/
def runElements : List (Slot σ) → σ → Bool → List Char → Except Fault (σ × List Char)
  | [], draft, _, cs => .ok (draft, cs)
  | slot :: slots, draft, first, cs =>
    match element? first cs with
    | .error f => .error f
    | .ok none => .ok (draft, cs)
    | .ok (some rest) =>
      match slot.fill.run rest with
      | .error f => .error f
      | .ok (fill, rest) => runElements slots (fill draft) false rest

theorem runElements_le {slots : List (Slot σ)} {draft draft' : σ} {first : Bool}
    {cs rest : List Char} (h : runElements slots draft first cs = .ok (draft', rest)) :
    rest.length ≤ cs.length := by
  fun_induction runElements slots draft first cs with
  | case1 =>
    simp only [Except.ok.injEq, Prod.mk.injEq] at h
    simp [← h.2]
  | case2 => simp at h
  | case3 =>
    simp only [Except.ok.injEq, Prod.mk.injEq] at h
    simp [← h.2]
  | case4 => simp at h
  | case5 slot slots draft first cs _ he fill _ hf ih =>
    have := ih h
    have := slot.fill.shorter hf
    have := element?_le he
    omega

/-- A record: the draft to start from, its slots, and the record a draft makes, if it makes one. -/
structure Shape (σ α : Type) where
  blank : σ
  slots : List (Slot σ)
  finish : σ → Option α

/-- Reads a record. -/
def Shape.run (shape : Shape σ α) (cs : List Char) : Except Fault (α × List Char) :=
  match dropGaps cs with
  | [] => .error .truncated
  | c :: rest =>
    if c = '\x7b' then
      match runMembers shape.slots shape.blank true rest with
      | .error f => .error f
      | .ok (draft, rest) =>
        match shape.finish draft with
        | none => .error .mismatch
        | some a => .ok (a, rest)
    else if c = '[' then
      match runElements shape.slots shape.blank true rest with
      | .error f => .error f
      | .ok (draft, rest) =>
        match shape.finish draft with
        | none => .error .mismatch
        | some a => (passClosing .list rest).map (a, ·)
    else .error (wrongKind (c :: rest))

theorem Shape.run_shorter {shape : Shape σ α} {cs rest : List Char} {a : α}
    (h : shape.run cs = .ok (a, rest)) : rest.length < cs.length := by
  unfold run at h
  split at h
  · simp at h
  · next hc =>
    have hlt := length_lt_of_dropGaps hc
    split at h
    · split at h
      · simp at h
      · next hm =>
        split at h
        · simp at h
        · simp only [Except.ok.injEq, Prod.mk.injEq] at h
          exact h.2 ▸ Nat.lt_trans (runMembers_shorter hm) hlt
    · split at h
      · split at h
        · simp at h
        · next rest' he =>
          split at h
          · simp at h
          · cases hp : passClosing .list rest' with
            | error f => simp [hp, Except.map] at h
            | ok rest'' =>
              simp only [hp, Except.map, Except.ok.injEq, Prod.mk.injEq] at h
              have := runElements_le he
              have := passClosing_shorter hp
              rw [← h.2]
              omega
      · simp at h

/-- Reads a record. -/
def Shape.reader (shape : Shape σ α) : Reader α :=
  ⟨shape.run, shape.run_shorter⟩

end AgentConsole.Json
