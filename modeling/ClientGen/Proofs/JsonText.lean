import ClientGen.Proofs.Alike
import ClientGen.Proofs.Entries
import ClientGen.Proofs.Failures
import ClientGen.Proofs.JsonScan
import ClientGen.Proofs.Utf8

namespace ClientGen.Json
open Text

/-- The texts of a key, with space around it or not. -/
inductive IsKey : String → List Char → Prop where
  | quoted {s : String} {before cs after : List Char} (hbefore : IsGap before)
    (hafter : IsGap after) (h : IsQuoted s.toList cs) :
    IsKey s (before ++ '"' :: cs ++ '"' :: after)

mutual

/-- The texts of a value, with space around it or not. The keys of an object are distinct. -/
inductive IsTextOf : Datum → List Char → Prop where
  | word {d : Datum} {cs : List Char} (h : (cs, d) ∈ words) : IsTextOf d cs
  | integer {z : Int} {cs : List Char} (h : IsInteger z cs) : IsTextOf (.other (toString z)) cs
  | text {s : String} {cs : List Char} (h : IsQuoted s.toList cs) :
    IsTextOf (.text s) ('"' :: cs ++ ['"'])
  | emptyList {gap : List Char} (h : IsGap gap) : IsTextOf (.list []) ('[' :: gap ++ [']'])
  | list {items : List Datum} {cs : List Char} (h : AreItems items cs) :
    IsTextOf (.list items) ('[' :: cs ++ [']'])
  | emptyObject {gap : List Char} (h : IsGap gap) :
    IsTextOf (.object []) ('\x7b' :: gap ++ ['\x7d'])
  | object {es : List (String × Datum)} {cs : List Char} (keys : (es.map Prod.fst).Nodup)
    (h : AreEntries es cs) : IsTextOf (.object es) ('\x7b' :: cs ++ ['\x7d'])
  | spaced {d : Datum} {before cs after : List Char} (hbefore : IsGap before) (hafter : IsGap after)
    (h : IsTextOf d cs) : IsTextOf d (before ++ cs ++ after)

/-- The texts of items, set off by commas. -/
inductive AreItems : List Datum → List Char → Prop where
  | last {d : Datum} {cs : List Char} (h : IsTextOf d cs) : AreItems [d] cs
  | next {d : Datum} {cs : List Char} {items : List Datum} {more : List Char} (h : IsTextOf d cs)
    (rest : AreItems items more) : AreItems (d :: items) (cs ++ ',' :: more)

/-- The texts of entries, set off by commas. -/
inductive AreEntries : List (String × Datum) → List Char → Prop where
  | last {key : String} {keyText : List Char} {d : Datum} {cs : List Char}
    (hkey : IsKey key keyText) (h : IsTextOf d cs) : AreEntries [(key, d)] (keyText ++ ':' :: cs)
  | next {key : String} {keyText : List Char} {d : Datum} {cs : List Char}
    {es : List (String × Datum)} {more : List Char} (hkey : IsKey key keyText) (h : IsTextOf d cs)
    (rest : AreEntries es more) :
    AreEntries ((key, d) :: es) (keyText ++ ':' :: cs ++ ',' :: more)

end

/-- Whether the reader comes from one state at a text to another state at the rest of it. -/
def Reads (s : State) (cs : List Char) (s' : State) (rest : List Char) : Prop :=
  ∀ position, ∃ position',
    run s (lexemesFrom position (unifyNewlines cs)) =
      run s' (lexemesFrom position' (unifyNewlines rest))

namespace Reads
variable {s s' s'' : State} {cs mid rest : List Char}

theorem trans (h : Reads s cs s' mid) (h' : Reads s' mid s'' rest) : Reads s cs s'' rest := by
  intro position
  obtain ⟨position', hr⟩ := h position
  obtain ⟨position'', hr'⟩ := h' position'
  exact ⟨position'', hr.trans hr'⟩

theorem gap {gap : List Char} (h : IsGap gap) (s : State) (rest : List Char) :
    Reads s (gap ++ rest) s rest := by
  intro position
  obtain ⟨position', hl⟩ := lexemesFrom_gap h rest position
  exact ⟨position', by rw [hl]⟩

theorem lexeme {l : Lexeme} (hs : s.step l = some s')
    (h : ∀ position, ∃ position', lexemesFrom position (unifyNewlines cs) =
      .next position l (lexemesFrom position' (unifyNewlines rest))) : Reads s cs s' rest := by
  intro position
  obtain ⟨position', hl⟩ := h position
  refine ⟨position', ?_⟩
  rw [hl, run, hs]

theorem punctuation {c : Char} {l : Lexeme} (hr : c ≠ '\r') (hspace : isSpace c = false)
    (hp : punctuation? c = some l) (hs : s.step l = some s') (rest : List Char) :
    Reads s (c :: rest) s' rest := by
  apply lexeme hs
  intro position
  rw [unifyNewlines_cons hr]
  exact ⟨_, lexemesFrom_punctuation hspace hp position _⟩

theorem quoted {value : String} (h : IsQuoted value.toList cs)
    (hs : s.step (.text (pointsOf value)) = some s') :
    Reads s ('"' :: cs ++ '"' :: rest) s' rest :=
  lexeme hs fun position => lexemesFrom_quoted h position rest

theorem key {name : String} (h : IsKey name cs) (hs : s.step (.text (pointsOf name)) = some s') :
    Reads s (cs ++ rest) s' rest := by
  cases h with
  | @quoted before cs after hbefore hafter hq =>
    have hsplit : before ++ '"' :: cs ++ '"' :: after ++ rest =
        before ++ ('"' :: cs ++ '"' :: (after ++ rest)) := by
      simp only [List.append_assoc, List.cons_append]
    rw [hsplit]
    exact (gap hbefore s _).trans ((quoted hq hs).trans (gap hafter s' rest))

end Reads

/-- Whether the first lexeme of a value begins it on a stack. -/
def Awaits (s : State) (stack : List Frame) : Prop :=
  ∀ l, beginValue stack l ≠ none → s.step l = beginValue stack l

theorem awaits_value (stack : List Frame) : Awaits (.value stack) stack :=
  fun _ _ => rfl

theorem awaits_firstItem (stack : List Frame) : Awaits (.firstItem stack) (.list [] :: stack) := by
  intro l hl
  cases l with
  | closeList => exact absurd rfl hl
  | _ => rfl

/-- Whether a text may come next as the key of an entry behind others. -/
def AwaitsKey (s : State) (done : List (List Nat × Value)) (stack : List Frame) : Prop :=
  ∀ key, s.step (.text key) = some (.colon done key stack)

theorem ends_cons {c : Char} (h : c ∈ [' ', '\t', '\n', '\r', ',', ']', '\x7d']) (cs : List Char) :
    Ends (c :: cs) := by
  intro x hx
  cases hx
  exact h

theorem ends_gap {gap rest : List Char} (h : IsGap gap) (hrest : Ends rest) : Ends (gap ++ rest) := by
  cases gap with
  | nil => exact hrest
  | cons c gap =>
    have hc := h c List.mem_cons_self
    simp only [List.mem_cons, List.not_mem_nil, or_false] at hc
    apply ends_cons
    rcases hc with rfl | rfl | rfl | rfl <;> decide

theorem reads_single {s : State} {stack : List Frame} {cs rest : List Char} {l : Lexeme} {v : Value}
    (hs : Awaits s stack) (hl : beginValue stack l = some (.after v stack))
    (h : ∀ position, ∃ position', lexemesFrom position (unifyNewlines (cs ++ rest)) =
      .next position l (lexemesFrom position' (unifyNewlines rest))) :
    Reads s (cs ++ rest) (.after v stack) rest := by
  have hstep := hs l (by rw [hl]; exact Option.some_ne_none _)
  exact .lexeme (hstep.trans hl) h

theorem alike_word {d : Datum} {cs : List Char} (h : (cs, d) ∈ words) : Alike d d := by
  obtain ⟨-, rfl⟩ | ⟨-, rfl⟩ | ⟨-, rfl⟩ := eq_of_mem_words h
  · exact .null
  · exact .flag true
  · exact .flag false

theorem putEntry_ofEntries {done es : List (String × Datum)} {key : String} {d : Datum}
    (h : (done.map Prod.fst ++ ((key, d) :: es).map Prod.fst).Nodup) (d' : Datum) :
    Datum.putEntry (pointsOf key) (Value.ofDatum d') (Value.ofEntries done) =
      Value.ofEntries (done ++ [(key, d')]) := by
  have hfresh : pointsOf key ∉ (Value.ofEntries done).map Prod.fst := by
    rw [Value.keys_ofEntries, List.mem_map_of_injective pointsOf_injective]
    exact fun hmem => (List.nodup_append.1 h).2.2 key hmem key List.mem_cons_self rfl
  rw [Datum.putEntry_of_fresh hfresh, Value.ofEntries_append]
  rfl

theorem reads_key {s : State} {done : List (List Nat × Value)} {stack : List Frame} {key : String}
    {cs : List Char} (hs : AwaitsKey s done stack) (h : IsKey key cs) (rest : List Char) :
    Reads s (cs ++ ':' :: rest) (.value (.entry done (pointsOf key) :: stack)) rest :=
  (Reads.key h (hs _)).trans (.punctuation (by decide) rfl rfl rfl rest)

mutual

/-- A value is read from each of its texts, up to how integers are written. -/
theorem reads_value {d : Datum} {cs : List Char} : IsTextOf d cs →
    ∀ {s : State} {stack : List Frame} {rest : List Char}, Awaits s stack → Ends rest →
      ∃ d', Alike d d' ∧ Reads s (cs ++ rest) (.after (.ofDatum d') stack) rest
  | .word h, s, stack, rest, hs, _ =>
    ⟨d, alike_word h, reads_single hs rfl fun _ => lexemesFrom_word h⟩
  | @IsTextOf.integer z cs h, s, stack, rest, hs, hrest =>
    ⟨.other (String.ofList cs), .other _ _,
      reads_single hs rfl fun position => lexemesFrom_integer h hrest⟩
  | @IsTextOf.text value cs h, s, stack, rest, hs, _ => by
    refine ⟨.text value, .text value, ?_⟩
    have hstep := hs (.text (pointsOf value)) (Option.some_ne_none _)
    rw [List.append_assoc]
    exact .quoted h hstep
  | @IsTextOf.emptyList gap h, s, stack, rest, hs, _ => by
    refine ⟨.list [], .list .nil, ?_⟩
    have hopen := hs .openList (Option.some_ne_none _)
    have hclose : (State.firstItem stack).step .closeList = some (.after (.list []) stack) := rfl
    rw [List.append_assoc]
    refine (Reads.punctuation (by decide) rfl rfl hopen _).trans ?_
    exact (Reads.gap h _ _).trans (.punctuation (by decide) rfl rfl hclose _)
  | @IsTextOf.list items cs h, s, stack, rest, hs, _ => by
    obtain ⟨items', hitems, hreads⟩ := reads_items h (awaits_firstItem stack) rest
    refine ⟨.list items', .list hitems, ?_⟩
    have hopen := hs .openList (Option.some_ne_none _)
    rw [List.append_assoc]
    exact (Reads.punctuation (by decide) rfl rfl hopen _).trans hreads
  | @IsTextOf.emptyObject gap h, s, stack, rest, hs, _ => by
    refine ⟨.object [], .object .nil, ?_⟩
    have hopen := hs .openObject (Option.some_ne_none _)
    have hclose : (State.firstKey stack).step .closeObject = some (.after (.object []) stack) := rfl
    rw [List.append_assoc]
    refine (Reads.punctuation (by decide) rfl rfl hopen _).trans ?_
    exact (Reads.gap h _ _).trans (.punctuation (by decide) rfl rfl hclose _)
  | @IsTextOf.object es cs keys h, s, stack, rest, hs, _ => by
    have hkey : AwaitsKey (.firstKey stack) (Value.ofEntries []) stack := fun _ => rfl
    obtain ⟨es', hes, hreads⟩ := reads_entries h hkey keys rest
    refine ⟨.object es', .object hes, ?_⟩
    have hopen := hs .openObject (Option.some_ne_none _)
    rw [List.append_assoc]
    exact (Reads.punctuation (by decide) rfl rfl hopen _).trans hreads
  | .spaced hbefore hafter h, s, stack, rest, hs, hrest => by
    obtain ⟨d', hd, hreads⟩ := reads_value h hs (ends_gap hafter hrest)
    refine ⟨d', hd, ?_⟩
    rw [List.append_assoc, List.append_assoc]
    exact (Reads.gap hbefore s _).trans (hreads.trans (Reads.gap hafter _ rest))

theorem reads_items {items : List Datum} {cs : List Char} : AreItems items cs →
    ∀ {s : State} {done : List Value} {stack : List Frame},
      Awaits s (.list done :: stack) → ∀ rest : List Char,
      ∃ items', ItemsAlike items items' ∧
        Reads s (cs ++ ']' :: rest) (.after (.list (done.reverse ++ Value.ofItems items')) stack) rest
  | .last h, s, done, stack, hs, rest => by
    have hends : Ends (']' :: rest) := ends_cons (by decide) rest
    obtain ⟨d', hd, hreads⟩ := reads_value h hs hends
    refine ⟨[d'], .cons hd .nil, hreads.trans (.punctuation (by decide) rfl rfl ?_ rest)⟩
    have hitems : done.reverse ++ Value.ofItems [d'] = (Value.ofDatum d' :: done).reverse :=
      List.reverse_cons.symm
    rw [hitems]
    rfl
  | @AreItems.next d cs items more h hmore, s, done, stack, hs, rest => by
    have hends : Ends (',' :: (more ++ ']' :: rest)) := ends_cons (by decide) _
    obtain ⟨d', hd, hreads⟩ := reads_value h hs hends
    have hnext := awaits_value (.list (.ofDatum d' :: done) :: stack)
    obtain ⟨items', hitems, hrest⟩ := reads_items hmore hnext rest
    refine ⟨d' :: items', .cons hd hitems, ?_⟩
    rw [List.append_assoc, List.cons_append]
    refine hreads.trans ((Reads.punctuation (by decide) rfl rfl rfl _).trans ?_)
    rw [List.reverse_cons, List.append_assoc] at hrest
    exact hrest

theorem reads_entries {es : List (String × Datum)} {cs : List Char} : AreEntries es cs →
    ∀ {s : State} {done : List (String × Datum)} {stack : List Frame},
      AwaitsKey s (Value.ofEntries done) stack → (done.map Prod.fst ++ es.map Prod.fst).Nodup →
      ∀ rest : List Char, ∃ es', EntriesAlike es es' ∧
        Reads s (cs ++ '\x7d' :: rest) (.after (.object (Value.ofEntries (done ++ es'))) stack) rest
  | @AreEntries.last key keyText d cs hkey h, s, done, stack, hs, hfresh, rest => by
    have hends : Ends ('\x7d' :: rest) := ends_cons (by decide) rest
    obtain ⟨d', hd, hreads⟩ := reads_value h (awaits_value _) hends
    have hput := putEntry_ofEntries hfresh d'
    refine ⟨[(key, d')], .cons hd .nil, ?_⟩
    rw [List.append_assoc, List.cons_append]
    refine (reads_key hs hkey _).trans (hreads.trans (.punctuation (by decide) rfl rfl ?_ rest))
    rw [← hput]
    rfl
  | @AreEntries.next key keyText d cs es more hkey h hmore, s, done, stack, hs, hfresh, rest => by
    have hends : Ends (',' :: (more ++ '\x7d' :: rest)) := ends_cons (by decide) _
    obtain ⟨d', hd, hreads⟩ := reads_value h (awaits_value _) hends
    have hput := putEntry_ofEntries hfresh d'
    have hkeys : AwaitsKey (.nextKey (Value.ofEntries (done ++ [(key, d')])) stack)
        (Value.ofEntries (done ++ [(key, d')])) stack := fun _ => rfl
    have hfresh' : ((done ++ [(key, d')]).map Prod.fst ++ es.map Prod.fst).Nodup := by
      rwa [List.map_append, List.append_assoc]
    obtain ⟨es', hes, hrest⟩ := reads_entries hmore hkeys hfresh' rest
    refine ⟨(key, d') :: es', .cons hd hes, ?_⟩
    rw [List.append_assoc, List.append_assoc, List.cons_append, List.cons_append]
    refine (reads_key hs hkey _).trans (hreads.trans ?_)
    rw [List.append_assoc] at hrest
    refine (Reads.punctuation (by decide) rfl rfl ?_ _).trans hrest
    rw [← hput]
    rfl

end

theorem head_unifyNewlines {cs : List Char} {c : Char} (hc : c ≠ '\n')
    (h : (unifyNewlines cs).head? = some c) : cs.head? = some c := by
  cases cs with
  | nil => cases h
  | cons x cs =>
    by_cases hr : x = '\r'
    · rw [hr] at h
      rcases unifyNewlines_return cs with hu | ⟨cs', -, hu⟩
      · rw [hu] at h
        exact absurd (Option.some.inj h).symm hc
      · rw [hu] at h
        exact absurd (Option.some.inj h).symm hc
    · rw [unifyNewlines_cons hr] at h
      exact h

theorem head_isTextOf {d : Datum} {cs : List Char} :
    IsTextOf d cs → ∃ c rest, cs = c :: rest ∧ c ≠ '\ufeff'
  | .word h => by
    obtain ⟨rfl, -⟩ | ⟨rfl, -⟩ | ⟨rfl, -⟩ := eq_of_mem_words h
    all_goals exact ⟨_, _, rfl, by decide⟩
  | .integer h => by
    rcases isNumeral_of_isInteger h with hn | ⟨ds, rfl, -⟩
    · obtain ⟨c, cs, rfl, hc⟩ := hn.head
      exact ⟨c, cs, rfl, (ne_of_isDigit hc (by decide)).symm⟩
    · exact ⟨'-', ds, rfl, by decide⟩
  | .text _ | .emptyList _ | .list _ | .emptyObject _ | .object _ _ => ⟨_, _, rfl, by decide⟩
  | @IsTextOf.spaced _ before _ after hbefore _ h => by
    obtain ⟨c, rest, rfl, hc⟩ := head_isTextOf h
    cases before with
    | nil => exact ⟨c, rest ++ after, rfl, hc⟩
    | cons x before =>
      refine ⟨x, before ++ (c :: rest) ++ after, rfl, ?_⟩
      rintro rfl
      exact absurd (hbefore _ List.mem_cons_self) (by decide)

theorem parse_isTextOf {d : Datum} {cs : List Char} (h : IsTextOf d cs) :
    ∃ d', Alike d d' ∧ parse (unifyNewlines cs) = .ok (.ofDatum d') := by
  have hends : Ends [] := fun c hc => nomatch hc
  obtain ⟨d', hd, hreads⟩ := reads_value h (awaits_value []) hends
  obtain ⟨position, hrun⟩ := hreads 0
  refine ⟨d', hd, ?_⟩
  have hbom : ¬((unifyNewlines cs).head? == some '\ufeff') = true := by
    intro hb
    obtain ⟨c, rest, rfl, hc⟩ := head_isTextOf h
    exact hc (Option.some.inj (head_unifyNewlines (by decide) (eq_of_beq hb)))
  rw [List.append_nil] at hrun
  rw [parse, if_neg hbom, lexemes, hrun, unifyNewlines, lexemesFrom]
  rfl

end ClientGen.Json

namespace ClientGen
open Json Text

/-- A file that holds a text of a value in JSON holds that value, up to how integers are written. -/
theorem DescriptorFile.ofBytes_isTextOf (yaml : YamlReader) {path : DescriptorPath}
    (hpath : path.isYaml = false) {d : Datum} {cs : List Char} (h : IsTextOf d cs) :
    ∃ d', Alike d d' ∧ ofBytes yaml path (Utf8.encode cs) = .ok { datum := d' } := by
  obtain ⟨d', hd, hparse⟩ := parse_isTextOf h
  refine ⟨d', hd, ?_⟩
  rw [ofBytes, Utf8.decode_encode]
  change ofText yaml path (unifyNewlines cs) = _
  rw [ofText_json hpath, ofJson_of_datum hparse (Value.datum?_ofDatum d')]

/-- Loading a file in JSON is loading what it holds: every text that JSON has for an object, stored
as UTF-8 at a path that names no YAML, gives the document of that object, or fails as the object
does. -/
theorem load_jsonText (yaml : YamlReader) {path : DescriptorPath} (hpath : path.isYaml = false)
    (hn : '\x00' ∉ path.toString.toList) {es : List (String × Datum)} {cs : List Char}
    (h : IsTextOf (.object es) cs) :
    (Descriptor.file yaml path (.ok (Utf8.encode cs))).load = (Descriptor.entries es).load := by
  obtain ⟨d', hd, hfile⟩ := DescriptorFile.ofBytes_isTextOf yaml hpath h
  change DescriptorFile.load yaml path _ = _
  rw [DescriptorFile.load_of_ofBytes hn hfile]
  change (DescriptorFile.readDocument d').mapError LoadError.descriptor = _
  rw [← DescriptorFile.readDocument_alike hd]
  rfl

def greeting : List (String × Datum) :=
  [("class_name", .text "Greeter"), ("revision", .other (toString (0 : Int))),
    ("methods", .list [.object [("wire_name", .text "wave😀")]])]

def greetingText : String :=
  "\x7b\r\n\"class_name\" : \"\\u0047reeter\",\r\"revision\": -0,"
    ++ "\"methods\":[ \x7b\"wire_name\":\t\"wave\\ud83D\\uDe00\"\x7d ]\x7d\n"

theorem isTextOf_greeting :
    ∃ cs, String.ofList cs = greetingText ∧ IsTextOf (.object greeting) cs := by
  have hlower : ∀ n, n < 16 → IsHexDigit n.digitChar n := fun _ hn => ⟨hn, .inl rfl⟩
  have hupper : ∀ n, n < 16 → IsHexDigit n.digitChar.toUpper n := fun _ hn => ⟨hn, .inr rfl⟩
  have hname : IsQuoted "Greeter".toList ('\\' :: 'u' :: ['0', '0', '4', '7'] ++ "reeter".toList) :=
    .unit (.digits (hlower 0 (by decide)) (hlower 0 (by decide)) (hlower 4 (by decide))
      (hlower 7 (by decide))) (isQuoted_self (by decide))
  have hemoticon : IsQuoted ['😀']
      ('\\' :: 'u' :: ['d', '8', '3', 'D'] ++ '\\' :: 'u' :: ['D', 'e', '0', '0'] ++ []) :=
    @IsQuoted.pair '😀' [] _ _ [] 0x3d 0x200
      (.digits (hlower 13 (by decide)) (hlower 8 (by decide)) (hlower 3 (by decide))
        (hupper 13 (by decide)))
      (.digits (hupper 13 (by decide)) (hlower 14 (by decide)) (hlower 0 (by decide))
        (hlower 0 (by decide))) (by decide) (by decide) (by decide) .done
  have hwire := hemoticon.plainly "wave".toList (by decide)
  have hoperation : IsTextOf (.object [("wire_name", .text "wave😀")]) _ :=
    .object (by decide) (.last (.quoted (show IsGap [] by decide) (show IsGap [] by decide)
      (isQuoted_self (by decide))) (.spaced (show IsGap ['\t'] by decide) (show IsGap [] by decide)
      (@IsTextOf.text "wave😀" _ hwire)))
  have hrevision : IsTextOf (.other (toString (0 : Int))) ['-', '0'] := .integer (.inr ⟨rfl, rfl⟩)
  have hobject : IsTextOf (.object greeting) _ :=
    .object (by decide) (.next (.quoted (show IsGap ['\r', '\n'] by decide)
      (show IsGap [' '] by decide) (isQuoted_self (by decide)))
      (.spaced (show IsGap [' '] by decide) (show IsGap [] by decide) (.text hname))
      (.next (.quoted (show IsGap ['\r'] by decide) (show IsGap [] by decide)
        (isQuoted_self (by decide)))
        (.spaced (show IsGap [' '] by decide) (show IsGap [] by decide) hrevision)
        (.last (.quoted (show IsGap [] by decide) (show IsGap [] by decide) (isQuoted_self (by decide)))
          (.list (.last (.spaced (show IsGap [' '] by decide) (show IsGap [' '] by decide)
            hoperation))))))
  exact ⟨_, rfl, .spaced (show IsGap [] by decide) (show IsGap ['\n'] by decide) hobject⟩

theorem greeting_loads : ∃ cs, String.ofList cs = greetingText ∧
    (Descriptor.file none ⟨"", ["greeter.json"]⟩ (.ok (Utf8.encode cs))).load =
      (Descriptor.entries greeting).load := by
  obtain ⟨cs, hcs, h⟩ := isTextOf_greeting
  exact ⟨cs, hcs, load_jsonText none (by decide) (by decide) h⟩

end ClientGen
