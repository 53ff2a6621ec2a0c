import EntityModel.CommandLine.Arguments
import EntityModel.Proofs.Except

/-!
# The flag of the synchronization

Two readings of arguments that differ in `--no-autosync` alone go on alike: what was given so far
is compared by `Given.forced`, which drops that flag, and every step of the reading keeps such
givens alike as long as it does not fail (`Reading.step_forced`, `Reading.run_forced`). So arguments
with the flag and the same ones without it ask for one command up to the synchronization
(`ofArguments_forced`).
-/

namespace EntityModel.CommandLine

/-- The product made with a forced synchronization. -/
def Product.forced : Product → Product
  | .model pretty _ => .model pretty true
  | .tables => .tables

def Command.forced (c : Command) : Command := { c with product := c.product.forced }

def Invocation.forced : Invocation → Invocation
  | .command c => .command c.forced
  | answer => answer

/-- The flags without that of the synchronization. -/
def Flags.forced (given : Flags) : Flags := given.filter (· ≠ .noAutosync)

def Given.forced (g : Given) : Given := { g with flags := Flags.forced g.flags }

/-! ## Flags -/

theorem Flags.contains_of_forced {a b : Flags} (h : Flags.forced a = Flags.forced b) {flag : Flag}
    (hflag : flag ≠ .noAutosync) : a.contains flag = b.contains flag := by
  have hmem (c : Flags) : flag ∈ Flags.forced c ↔ flag ∈ c := by simp [Flags.forced, hflag]
  rw [Bool.eq_iff_iff, List.contains_iff_mem, List.contains_iff_mem, ← hmem a, ← hmem b, h]

/-- Two answers to flags that were given: flags that are alike, or one invocation. -/
abbrev FlagsAlike : Flags ⊕ Invocation → Flags ⊕ Invocation → Prop :=
  Sum.LiftRel (fun a b => Flags.forced a = Flags.forced b) Eq

theorem giveFlag_forced {topic : Topic} {a b : Flags} {flag : Flag} {x y : Flags ⊕ Invocation}
    (h : Flags.forced a = Flags.forced b) (hx : giveFlag topic a flag = .ok x)
    (hy : giveFlag topic b flag = .ok y) : FlagsAlike x y := by
  have hcons : Flags.forced (flag :: a) = Flags.forced (flag :: b) := by
    simp only [Flags.forced, List.filter_cons] at h ⊢
    rw [h]
  cases flag with
  | help | version =>
    cases hx
    cases hy
    exact .inr rfl
  | verbose | pretty | noAutosync =>
    simp only [giveFlag] at hx hy
    split at hx
    · contradiction
    · split at hy
      · contradiction
      · cases hx
        cases hy
        exact .inl hcons

theorem giveLetters_forced {kind : Option Kind} {topic : Topic} {letters : List Char} {a b : Flags}
    {x y : Flags ⊕ Invocation} (h : Flags.forced a = Flags.forced b)
    (hx : giveLetters kind topic a letters = .ok x)
    (hy : giveLetters kind topic b letters = .ok y) : FlagsAlike x y := by
  induction letters generalizing a b with
  | nil =>
    cases hx
    cases hy
    exact .inl h
  | cons letter rest ih =>
    simp only [giveLetters] at hx hy
    split at hx
    · contradiction
    next flag hflag =>
      simp only [hflag] at hy
      obtain ⟨p, hp, hx⟩ := Except.bind_eq_ok.1 hx
      obtain ⟨q, hq, hy⟩ := Except.bind_eq_ok.1 hy
      cases giveFlag_forced h hp hq with
      | inl hnext => exact ih hnext hx hy
      | inr hanswer =>
        cases hanswer
        cases hx
        cases hy
        exact .inr rfl

/-! ## Arguments of a command -/

section Given

variable {g h : Given} (halike : g.forced = h.forced)
include halike

theorem Given.source_of_forced : g.source = h.source := by
  simpa using (Given.mk.inj halike).2.1

theorem Given.output_of_forced : g.output = h.output := by
  simpa using (Given.mk.inj halike).2.2

theorem Given.flags_of_forced : Flags.forced g.flags = Flags.forced h.flags :=
  (Given.mk.inj halike).1

theorem Given.addSource_forced {text : String} {g' h' : Given} (hg : g.addSource text = .ok g')
    (hh : h.addSource text = .ok h') : g'.forced = h'.forced := by
  unfold Given.addSource at hg hh
  split at hg
  · contradiction
  · split at hh
    · contradiction
    · cases hg
      cases hh
      simp [Given.forced, Given.flags_of_forced halike, Given.output_of_forced halike]

theorem Given.addOutput_forced {name : String} {g' h' : Given} (hg : g.addOutput name = .ok g')
    (hh : h.addOutput name = .ok h') : g'.forced = h'.forced := by
  unfold Given.addOutput at hg hh
  split at hg
  · contradiction
  next hname =>
    rw [if_neg hname] at hh
    split at hg
    · contradiction
    · split at hh
      · contradiction
      · cases hg
        cases hh
        simp [Given.forced, Given.flags_of_forced halike, Given.source_of_forced halike]

theorem Given.finish_forced {kind : Kind} {x y : Invocation} (hx : g.finish kind = .ok x)
    (hy : h.finish kind = .ok y) : x.forced = y.forced := by
  have hpretty : g.flags.contains .pretty = h.flags.contains .pretty :=
    Flags.contains_of_forced (Given.flags_of_forced halike) (by decide)
  unfold Given.finish at hx hy
  rw [Given.source_of_forced halike] at hx
  split at hx
  · contradiction
  next source hsource =>
    simp only [hsource] at hy
    cases hx
    cases hy
    cases kind <;>
      simp [Invocation.forced, Command.forced, Product.forced, Given.output_of_forced halike,
        -List.contains_eq_mem, hpretty]

theorem Given.withFlags_forced {a b : Flags} (hflags : Flags.forced a = Flags.forced b) :
    { g with flags := a }.forced = { h with flags := b }.forced := by
  simp [Given.forced, hflags, Given.source_of_forced halike, Given.output_of_forced halike]

end Given

/-! ## One argument -/

/-- How far the arguments of a command are read. -/
structure Reading where
  pending : Bool
  escaped : Bool
  given : Given

namespace Reading

/-- The invocation that the rest of the arguments leads to. -/
def run (kind : Kind) (r : Reading) (arguments : List String) : Except UsageError Invocation :=
  readCommand kind r.pending r.escaped r.given arguments

/-- Reads on behind flags, unless they were answered. -/
def withFlags (r : Reading) : Flags ⊕ Invocation → Reading ⊕ Invocation
  | .inl flags => .inl ⟨false, false, { r.given with flags }⟩
  | .inr answer => .inr answer

/-- What one argument does. -/
def step (kind : Kind) (r : Reading) (text : String) : Except UsageError (Reading ⊕ Invocation) :=
  if r.escaped then
    if r.pending then .error (.missingValue "--output")
    else (r.given.addSource text).map fun g => .inl ⟨false, true, g⟩
  else
    match Argument.ofText text with
    | .plain =>
      (if r.pending then r.given.addOutput text else r.given.addSource text).map fun g =>
        .inl ⟨false, false, g⟩
    | .escape => .ok (.inl { r with escaped := true })
    | .long name value =>
      if r.pending then .error (.missingValue "--output")
      else if name = "output".toList then
        match value with
        | some value =>
          (r.given.addOutput (String.ofList value)).map fun g => .inl ⟨false, false, g⟩
        | none => .ok (.inl { r with pending := true })
      else
        match Flag.ofName (some kind) name with
        | none => .error (.unexpected text)
        | some flag =>
          if value.isSome then .error (.needlessValue text)
          else (giveFlag kind.topic r.given.flags flag).map r.withFlags
    | .short letters =>
      if r.pending then .error (.missingValue "--output")
      else (giveLetters (some kind) kind.topic r.given.flags letters).map r.withFlags

/-- Goes on with the rest of the arguments. -/
def next (kind : Kind) (rest : List String) : Reading ⊕ Invocation → Except UsageError Invocation
  | .inl r => r.run kind rest
  | .inr answer => .ok answer

theorem run_cons (kind : Kind) (r : Reading) (text : String) (rest : List String) :
    r.run kind (text :: rest) = r.step kind text >>= next kind rest := by
  obtain ⟨pending, escaped, g⟩ := r
  cases escaped with
  | true =>
    cases pending with
    | true => rfl
    | false =>
      simp only [run, readCommand, step]
      cases g.addSource text <;> rfl
  | false =>
    simp only [run, readCommand, step]
    cases Argument.ofText text with
    | plain =>
      cases pending
      · simp only [Bool.false_eq_true, ↓reduceIte]
        cases g.addSource text <;> rfl
      · simp only [↓reduceIte]
        cases g.addOutput text <;> rfl
    | escape => rfl
    | long name value =>
      cases pending with
      | true => rfl
      | false =>
        dsimp only
        by_cases hname : name = "output".toList
        · cases value with
          | none => simp only [hname]; rfl
          | some value =>
            simp only [hname]
            cases hg : g.addOutput (String.ofList value) <;> rfl
        · simp only [hname]
          cases Flag.ofName (some kind) name with
          | none => rfl
          | some flag =>
            cases value with
            | some value => rfl
            | none =>
              cases hgive : giveFlag kind.topic g.flags flag with
              | error e => simp [Except.map, hgive]
              | ok answer => cases answer <;> simp [Except.map, hgive] <;> rfl
    | short letters =>
      cases pending with
      | true => rfl
      | false =>
        cases hgive : giveLetters (some kind) kind.topic g.flags letters with
        | error e => simp [Except.map, hgive]
        | ok answer => cases answer <;> simp [Except.map, hgive] <;> rfl

/-- The reading without the flag of the synchronization. -/
def forced (r : Reading) : Reading := { r with given := r.given.forced }

/-- Two readings of one argument: readings that are alike, or one invocation. -/
abbrev Alike : Reading ⊕ Invocation → Reading ⊕ Invocation → Prop :=
  Sum.LiftRel (fun r r' => r.forced = r'.forced) Eq

section Alike

variable {r r' : Reading} (h : r.forced = r'.forced)
include h

theorem given_of_forced : r.given.forced = r'.given.forced := (Reading.mk.inj h).2.2

theorem withFlags_forced {p q : Flags ⊕ Invocation} (hpq : FlagsAlike p q) :
    Alike (r.withFlags p) (r'.withFlags q) := by
  cases hpq with
  | inl hflags =>
    refine .inl ?_
    simp only [forced, Given.withFlags_forced (given_of_forced h) hflags]
  | inr hanswer => exact .inr hanswer

omit h in
/-- A source or an output file was given. -/
theorem alike_of_given {a b : Except UsageError Given} {escaped : Bool}
    {p q : Reading ⊕ Invocation} (hab : ∀ {c d}, a = .ok c → b = .ok d → c.forced = d.forced)
    (hp : a.map (fun g => Sum.inl (Reading.mk false escaped g)) = .ok p)
    (hq : b.map (fun g => Sum.inl (Reading.mk false escaped g)) = .ok q) : Alike p q := by
  obtain ⟨c, hc, rfl⟩ := Except.map_eq_ok.1 hp
  obtain ⟨d, hd, rfl⟩ := Except.map_eq_ok.1 hq
  exact .inl (congrArg (Reading.mk false escaped) (hab hc hd))

/-- Flags were given, by their name or by letters. -/
theorem alike_of_flags {a b : Except UsageError (Flags ⊕ Invocation)} {p q : Reading ⊕ Invocation}
    (hab : ∀ {c d}, a = .ok c → b = .ok d → FlagsAlike c d)
    (hp : a.map r.withFlags = .ok p) (hq : b.map r'.withFlags = .ok q) : Alike p q := by
  obtain ⟨c, hc, rfl⟩ := Except.map_eq_ok.1 hp
  obtain ⟨d, hd, rfl⟩ := Except.map_eq_ok.1 hq
  exact withFlags_forced h (hab hc hd)

theorem step_forced {kind : Kind} {text : String} {p q : Reading ⊕ Invocation}
    (hp : r.step kind text = .ok p) (hq : r'.step kind text = .ok q) : Alike p q := by
  obtain ⟨pending, escaped, g⟩ := r
  obtain ⟨pending', escaped', g'⟩ := r'
  obtain ⟨rfl, rfl, hgiven⟩ := Reading.mk.inj h
  dsimp only at hgiven
  unfold step at hp hq
  dsimp only at hp hq
  split at hp
  next hescaped =>
    rw [if_pos hescaped] at hq
    split at hp
    · contradiction
    next hpending =>
      rw [if_neg hpending] at hq
      exact alike_of_given (Given.addSource_forced hgiven) hp hq
  next hescaped =>
    rw [if_neg hescaped] at hq
    cases hlook : Argument.ofText text with
    | plain =>
      simp only [hlook] at hp hq
      cases pending with
      | true => exact alike_of_given (Given.addOutput_forced hgiven) hp hq
      | false => exact alike_of_given (Given.addSource_forced hgiven) hp hq
    | escape =>
      simp only [hlook] at hp hq
      cases hp
      cases hq
      exact .inl (congrArg (Reading.mk pending true) hgiven)
    | long name value =>
      simp only [hlook] at hp hq
      split at hp
      · contradiction
      next hpending =>
        rw [if_neg hpending] at hq
        split at hp
        next hname =>
          rw [if_pos hname] at hq
          cases value with
          | none =>
            cases hp
            cases hq
            exact .inl (congrArg (Reading.mk true escaped) hgiven)
          | some value => exact alike_of_given (Given.addOutput_forced hgiven) hp hq
        next hname =>
          rw [if_neg hname] at hq
          split at hp
          · contradiction
          next flag hflag =>
            simp only [hflag] at hq
            split at hp
            · contradiction
            next hvalue =>
              rw [if_neg hvalue] at hq
              exact alike_of_flags h (giveFlag_forced (Given.flags_of_forced hgiven)) hp hq
    | short letters =>
      simp only [hlook] at hp hq
      split at hp
      · contradiction
      next hpending =>
        rw [if_neg hpending] at hq
        exact alike_of_flags h (giveLetters_forced (Given.flags_of_forced hgiven)) hp hq

end Alike

theorem run_forced {kind : Kind} {arguments : List String} {r r' : Reading} {x y : Invocation}
    (h : r.forced = r'.forced) (hx : r.run kind arguments = .ok x)
    (hy : r'.run kind arguments = .ok y) : x.forced = y.forced := by
  induction arguments generalizing r r' with
  | nil =>
    obtain ⟨pending, escaped, g⟩ := r
    obtain ⟨pending', escaped', g'⟩ := r'
    obtain ⟨rfl, rfl, hgiven⟩ := Reading.mk.inj h
    cases pending with
    | true => contradiction
    | false => exact Given.finish_forced hgiven hx hy
  | cons text rest ih =>
    rw [run_cons] at hx hy
    obtain ⟨p, hp, hx⟩ := Except.bind_eq_ok.1 hx
    obtain ⟨q, hq, hy⟩ := Except.bind_eq_ok.1 hy
    cases step_forced h hp hq with
    | inl hnext => exact ih hnext hx hy
    | inr hanswer =>
      cases hanswer
      cases hx
      cases hy
      rfl

theorem ofText_no_autosync :
    Argument.ofText "--no-autosync" = .long "no-autosync".toList none := by decide

/-- Behind two hyphens the text is the source, and nothing may follow a source. -/
theorem not_run_escaped {kind : Kind} {back : List String} {g : Given} {x y : Invocation}
    (hx : run kind ⟨false, true, g⟩ ("--no-autosync" :: back) = .ok x) :
    run kind ⟨false, true, g⟩ back ≠ .ok y := by
  intro hy
  rw [run_cons] at hx
  obtain ⟨p, hp, hx⟩ := Except.bind_eq_ok.1 hx
  obtain ⟨g', hg, rfl⟩ := Except.map_eq_ok.1 hp
  unfold Given.addSource at hg
  split at hg
  · contradiction
  next hsource =>
    cases hg
    cases back with
    | nil =>
      have hnone : g.source = none := by simpa using hsource
      simp [run, readCommand, Given.finish, hnone] at hy
    | cons other rest => simp [next, run, readCommand, Given.addSource] at hx

theorem run_flag_forced {kind : Kind} {back : List String} {r : Reading} {x y : Invocation}
    (hx : r.run kind ("--no-autosync" :: back) = .ok x) (hy : r.run kind back = .ok y) :
    x.forced = y.forced := by
  obtain ⟨pending, escaped, g⟩ := r
  cases pending with
  | true =>
    rw [run_cons] at hx
    obtain ⟨p, hp, -⟩ := Except.bind_eq_ok.1 hx
    cases escaped <;> simp [step, ofText_no_autosync] at hp
  | false =>
    cases escaped with
    | true => exact absurd hy (not_run_escaped hx)
    | false =>
      rw [run_cons] at hx
      obtain ⟨p, hp, hx⟩ := Except.bind_eq_ok.1 hx
      cases kind with
      | ddl => simp [step, ofText_no_autosync, Flag.ofName] at hp
      | compile =>
        have hflag : Flag.ofName (some .compile) "no-autosync".toList = some .noAutosync := by
          decide
        simp only [step, ofText_no_autosync, hflag, Bool.false_eq_true, ↓reduceIte,
          Option.isSome_none] at hp
        rw [if_neg (by decide)] at hp
        obtain ⟨given, hgiven, rfl⟩ := Except.map_eq_ok.1 hp
        simp only [giveFlag] at hgiven
        split at hgiven
        · contradiction
        · cases hgiven
          have halike : forced ⟨false, false, { g with flags := .noAutosync :: g.flags }⟩ =
              forced ⟨false, false, g⟩ := by
            simp [forced, Given.forced, Flags.forced]
          exact run_forced halike hx hy

/-- Arguments of a command with the flag of the synchronization, and the same ones without it. -/
theorem run_insert_forced {kind : Kind} {front back : List String} {r : Reading}
    {x y : Invocation} (hx : r.run kind (front ++ "--no-autosync" :: back) = .ok x)
    (hy : r.run kind (front ++ back) = .ok y) : x.forced = y.forced := by
  induction front generalizing r with
  | nil => exact run_flag_forced hx hy
  | cons text rest ih =>
    rw [List.cons_append, run_cons] at hx hy
    obtain ⟨p, hp, hx⟩ := Except.bind_eq_ok.1 hx
    obtain ⟨q, hq, hy⟩ := Except.bind_eq_ok.1 hy
    cases hp.symm.trans hq
    cases p with
    | inl r' => exact ih hx hy
    | inr answer =>
      cases hx
      cases hy
      rfl

end Reading

/-! ## Arguments of the program -/

/-- Help is about one command, and the flag names none. -/
theorem readTopic_insert_ne (front back : List String) (x : Invocation) :
    readTopic (front ++ "--no-autosync" :: back) ≠ .ok x := by
  intro hx
  cases front with
  | nil => simp [readTopic] at hx
  | cons name rest =>
    simp only [List.cons_append, readTopic] at hx
    cases rest <;> split at hx <;> simp_all

theorem readArguments_forced {front back : List String} {given : Flags} {x y : Invocation}
    (hx : readArguments given (front ++ "--no-autosync" :: back) = .ok x)
    (hy : readArguments given (front ++ back) = .ok y) : x.forced = y.forced := by
  induction front generalizing given with
  | nil =>
    simp [readArguments, Reading.ofText_no_autosync, Flag.ofName] at hx
  | cons text rest ih =>
    have hflags (p : Flags ⊕ Invocation) :
        (match p with
          | .inl given => readArguments given (rest ++ "--no-autosync" :: back)
          | .inr answer => .ok answer) = .ok x →
        (match p with
          | .inl given => readArguments given (rest ++ back)
          | .inr answer => .ok answer) = .ok y → x.forced = y.forced := by
      intro hx hy
      cases p with
      | inl given => exact ih hx hy
      | inr answer =>
        cases hx
        cases hy
        rfl
    simp only [List.cons_append, readArguments] at hx hy
    cases hlook : Argument.ofText text with
    | plain =>
      simp only [hlook] at hx hy
      split at hx
      next hcompile =>
        rw [if_pos hcompile] at hy
        exact Reading.run_insert_forced (r := ⟨false, false, {}⟩) hx hy
      next hcompile =>
        rw [if_neg hcompile] at hy
        split at hx
        next hddl =>
          rw [if_pos hddl] at hy
          exact Reading.run_insert_forced (r := ⟨false, false, {}⟩) hx hy
        next hddl =>
          rw [if_neg hddl] at hy
          split at hx
          · exact absurd hx (readTopic_insert_ne rest back x)
          · contradiction
    | escape =>
      simp only [hlook] at hx
      cases rest <;> contradiction
    | long name value =>
      simp only [hlook] at hx hy
      split at hx
      · contradiction
      next flag hflag =>
        simp only [hflag] at hy
        split at hx
        · contradiction
        next hvalue =>
          rw [if_neg hvalue] at hy
          obtain ⟨p, hp, hx⟩ := Except.bind_eq_ok.1 hx
          obtain ⟨q, hq, hy⟩ := Except.bind_eq_ok.1 hy
          cases hp.symm.trans hq
          exact hflags p hx hy
    | short letters =>
      simp only [hlook] at hx hy
      obtain ⟨p, hp, hx⟩ := Except.bind_eq_ok.1 hx
      obtain ⟨q, hq, hy⟩ := Except.bind_eq_ok.1 hy
      cases hp.symm.trans hq
      exact hflags p hx hy

/-- Arguments with the flag of the synchronization and the same ones without it ask for one
command, up to the synchronization. -/
theorem ofArguments_forced {front back : List String} {c d : Command}
    (hc : Invocation.ofArguments (front ++ "--no-autosync" :: back) = .ok (.command c))
    (hd : Invocation.ofArguments (front ++ back) = .ok (.command d)) : c.forced = d.forced :=
  Invocation.command.inj (readArguments_forced hc hd)

end EntityModel.CommandLine
