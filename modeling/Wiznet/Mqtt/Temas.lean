import Wiznet.Mqtt.Client

/-!
# Topics and filters

`isTopicMatched` walks a filter and a topic character by character.  Here both are lists of levels, and the walk takes
the topic exactly when the levels of the filter do, one by one, with two exceptions to what the wildcards stand for:
`+` does not take an empty level, and `#` takes one level at least, of which the first is not empty.
-/

namespace Wiznet

/-- The separator of levels and the two wildcards. -/
def barra : UInt8 := '/'.toNat.toUInt8
def mas : UInt8 := '+'.toNat.toUInt8
def almohadilla : UInt8 := '#'.toNat.toUInt8

/-- A level of a filter. -/
inductive Nivel where
  | texto (x : List UInt8)
  | uno
  | resto
  deriving DecidableEq

namespace Nivel

def bytes : Nivel → List UInt8
  | texto x => x
  | uno => [mas]
  | resto => [almohadilla]

/-- A text has no separator nor wildcard in it. -/
def Escrito : Nivel → Prop
  | texto x => ∀ c ∈ x, c ≠ barra ∧ c ≠ mas ∧ c ≠ almohadilla
  | uno => True
  | resto => True

end Nivel

/-- Levels with a separator between each two. -/
def une : List (List UInt8) → List UInt8
  | [] => []
  | [x] => x
  | x :: y :: xs => x ++ barra :: une (y :: xs)

/-- A filter in the format that the walk assumes: it has a level, and `#` comes last. -/
inductive Filtro : List Nivel → Prop
  | fin {f : Nivel} (h : f.Escrito) : Filtro [f]
  | sigue {f : Nivel} {fs : List Nivel} (h : f.Escrito) (hr : f ≠ .resto) (hs : Filtro fs) : Filtro (f :: fs)

/-- The topics that a filter stands for. -/
inductive Vale : List Nivel → List (List UInt8) → Prop
  | fin : Vale [] []
  | texto {x : List UInt8} {fs : List Nivel} {ts : List (List UInt8)} (h : Vale fs ts) : Vale (.texto x :: fs) (x :: ts)
  | uno {t : List UInt8} {fs : List Nivel} {ts : List (List UInt8)} (h : Vale fs ts) : Vale (.uno :: fs) (t :: ts)
  | resto {ts : List (List UInt8)} : Vale [.resto] ts

/-- The topics that the walk takes. -/
inductive Acepta : List Nivel → List (List UInt8) → Prop
  | fin : Acepta [] []
  | texto {x : List UInt8} {fs : List Nivel} {ts : List (List UInt8)} (h : Acepta fs ts) :
      Acepta (.texto x :: fs) (x :: ts)
  | uno {t : List UInt8} {fs : List Nivel} {ts : List (List UInt8)} (ht : t ≠ []) (h : Acepta fs ts) :
      Acepta (.uno :: fs) (t :: ts)
  | resto {t : List UInt8} {ts : List (List UInt8)} (ht : t ≠ []) : Acepta [.resto] (t :: ts)

section
variable {x t : List UInt8} {fs : List Nivel} {ts : List (List UInt8)}

theorem Acepta.vale (h : Acepta fs ts) : Vale fs ts := by
  induction h with
  | fin => exact .fin
  | texto _ ih => exact .texto ih
  | uno _ _ ih => exact .uno ih
  | resto => exact .resto

theorem Acepta.length_le (h : Acepta fs ts) : fs.length ≤ ts.length := by
  induction h with
  | fin => simp
  | texto _ ih => simpa using ih
  | uno _ _ ih => simpa using ih
  | resto => simp

theorem Vale.acepta (h : Vale fs ts) (hl : fs.length ≤ ts.length) (hn : ∀ t ∈ ts, t ≠ []) : Acepta fs ts := by
  induction h with
  | fin => exact .fin
  | texto _ ih =>
    rw [List.forall_mem_cons] at hn
    exact .texto (ih (by simpa using hl) hn.2)
  | uno _ ih =>
    rw [List.forall_mem_cons] at hn
    exact .uno hn.1 (ih (by simpa using hl) hn.2)
  | @resto ts =>
    cases ts with
    | nil => simp at hl
    | cons t ts => exact .resto (hn t (by simp))

@[simp] theorem acepta_nil : Acepta [] ts ↔ ts = [] := by
  constructor
  · intro h
    cases h
    rfl
  · rintro rfl
    exact .fin

@[simp] theorem acepta_vacio : Acepta fs [] ↔ fs = [] := by
  constructor
  · intro h
    cases h
    rfl
  · rintro rfl
    exact .fin

@[simp] theorem acepta_texto : Acepta (.texto x :: fs) (t :: ts) ↔ t = x ∧ Acepta fs ts := by
  constructor
  · intro h
    cases h with
    | texto h => exact ⟨rfl, h⟩
  · rintro ⟨rfl, h⟩
    exact .texto h

@[simp] theorem acepta_uno : Acepta (.uno :: fs) (t :: ts) ↔ t ≠ [] ∧ Acepta fs ts := by
  constructor
  · intro h
    cases h with
    | uno ht h => exact ⟨ht, h⟩
  · rintro ⟨ht, h⟩
    exact .uno ht h

@[simp] theorem acepta_resto : Acepta [.resto] (t :: ts) ↔ t ≠ [] := by
  constructor
  · intro h
    cases h with
    | resto ht => exact ht
  · exact .resto

theorem Filtro.ne_nil (h : Filtro fs) : fs ≠ [] := by
  cases h <;> simp

end

namespace MQTT

/-- What is left of a filter or a topic after a level: nothing, or a separator and the levels that follow. -/
def Cola (r : List UInt8) : Prop := ∀ c r', r = c :: r' → c = barra

variable {r s x t : List UInt8}

theorem isTopicMatched_nil : isTopicMatched [] s = s.isEmpty := by
  cases s <;> rfl

theorem isTopicMatched_cons_nil {f : UInt8} : isTopicMatched (f :: r) [] = false := rfl

theorem isTopicMatched_cons {f n : UInt8} : isTopicMatched (f :: r) (n :: s) =
    if n = barra ∧ f ≠ barra then false
    else if f ≠ mas ∧ f ≠ almohadilla ∧ f ≠ n then false
    else if f = mas then isTopicMatched r (s.dropWhile (· ≠ barra))
    else if f = almohadilla then isTopicMatched r []
    else isTopicMatched r s := rfl

theorem isTopicMatched_barra : isTopicMatched (barra :: r) (barra :: s) = isTopicMatched r s := by
  rw [isTopicMatched_cons]
  simp [barra, mas, almohadilla]

/-- A filter that has ended its level does not take more of the level of the topic. -/
theorem isTopicMatched_corto {n : UInt8} (hn : n ≠ barra) (hr : Cola r) : isTopicMatched r (n :: s) = false := by
  rcases r with _ | ⟨f, r⟩
  · rfl
  · obtain rfl := hr f r rfl
    rw [isTopicMatched_cons, if_neg (by simp), if_pos]
    exact ⟨by decide, by decide, fun h => hn h.symm⟩

/-- A topic that has ended its level does not take more of the level of the filter. -/
theorem isTopicMatched_largo {f : UInt8} (hf : f ≠ barra) (hs : Cola s) : isTopicMatched (f :: r) s = false := by
  rcases s with _ | ⟨n, s⟩
  · rfl
  · obtain rfl := hs n s rfl
    rw [isTopicMatched_cons, if_pos ⟨rfl, hf⟩]

theorem isTopicMatched_texto (hx : ∀ c ∈ x, c ≠ barra ∧ c ≠ mas ∧ c ≠ almohadilla) (ht : ∀ c ∈ t, c ≠ barra)
    (hr : Cola r) (hs : Cola s) : isTopicMatched (x ++ r) (t ++ s) = true ↔ t = x ∧ isTopicMatched r s = true := by
  induction x generalizing t with
  | nil =>
    rcases t with _ | ⟨n, t⟩
    · simp
    · have hn : n ≠ barra := ht n (by simp)
      simp [isTopicMatched_corto hn hr]
  | cons c x ih =>
    rw [List.forall_mem_cons] at hx
    obtain ⟨⟨hb, hm, ha⟩, hx⟩ := hx
    rcases t with _ | ⟨n, t⟩
    · simp [isTopicMatched_largo hb hs]
    · rw [List.forall_mem_cons] at ht
      rw [List.cons_append, List.cons_append, isTopicMatched_cons, if_neg (by simp [ht.1])]
      by_cases hcn : c = n
      · rw [if_neg (by simp [hcn]), if_neg hm, if_neg ha, ih hx ht.2]
        simp [hcn]
      · rw [if_pos ⟨hm, ha, hcn⟩]
        simp [Ne.symm hcn]

theorem isTopicMatched_uno (ht : ∀ c ∈ t, c ≠ barra) (hs : Cola s) :
    isTopicMatched (mas :: r) (t ++ s) = true ↔ t ≠ [] ∧ isTopicMatched r s = true := by
  rcases t with _ | ⟨n, t⟩
  · simp [isTopicMatched_largo (show mas ≠ barra by decide) hs]
  · rw [List.forall_mem_cons] at ht
    have hc : s.dropWhile (· ≠ barra) = s := by
      rcases s with _ | ⟨b, s⟩
      · rfl
      · simp [hs b s rfl]
    have hd : (t ++ s).dropWhile (· ≠ barra) = s := by
      rw [List.dropWhile_append_of_pos (by simpa using ht.2), hc]
    rw [List.cons_append, isTopicMatched_cons, if_neg (by simp [ht.1]), if_neg (by simp), if_pos rfl, hd]
    simp

theorem isTopicMatched_resto (ht : ∀ c ∈ t, c ≠ barra) (hs : Cola s) :
    isTopicMatched [almohadilla] (t ++ s) = true ↔ t ≠ [] := by
  rcases t with _ | ⟨n, t⟩
  · simp [isTopicMatched_largo (show almohadilla ≠ barra by decide) hs]
  · have hn : n ≠ barra := ht n (by simp)
    rw [List.cons_append, isTopicMatched_cons, if_neg (by simp [hn]), if_neg (by simp), if_neg (by decide), if_pos rfl]
    simp [isTopicMatched_nil]

/-- What follows the first level. -/
def cola : List (List UInt8) → List UInt8
  | [] => []
  | y :: ys => barra :: une (y :: ys)

theorem une_cons {y : List UInt8} {ys : List (List UInt8)} : une (y :: ys) = y ++ cola ys := by
  cases ys <;> simp [une, cola]

theorem cola_cola {ys : List (List UInt8)} : Cola (cola ys) := by
  intro c r' h
  cases ys with
  | nil => simp [cola] at h
  | cons y ys =>
    simp only [cola, List.cons.injEq] at h
    exact h.1.symm

/-- The two tails agree when both levels are the last, or when what follows them agrees. -/
theorem isTopicMatched_cola {ys zs : List (List UInt8)} :
    isTopicMatched (cola ys) (cola zs) = true ↔
      ys = [] ∧ zs = [] ∨ ys ≠ [] ∧ zs ≠ [] ∧ isTopicMatched (une ys) (une zs) = true := by
  rcases ys with _ | ⟨y, ys⟩
  · cases zs <;> simp [cola, isTopicMatched_nil]
  · rcases zs with _ | ⟨z, zs⟩
    · simp [cola, isTopicMatched_cons_nil]
    · simp [cola, isTopicMatched_barra]

/-- One level, and what follows it. -/
theorem isTopicMatched_nivel {f : Nivel} {fs : List (List UInt8)} {ts : List (List UInt8)} (hf : f.Escrito)
    (hr : f ≠ .resto) (ht : ∀ c ∈ t, c ≠ barra) :
    isTopicMatched (une (f.bytes :: fs)) (une (t :: ts)) = true ↔
      Acepta [f] [t] ∧ isTopicMatched (cola fs) (cola ts) = true := by
  rw [une_cons, une_cons]
  cases f with
  | texto x => simp [Nivel.bytes, isTopicMatched_texto hf ht cola_cola cola_cola]
  | uno => simp [Nivel.bytes, isTopicMatched_uno ht cola_cola]
  | resto => exact absurd rfl hr

theorem isTopicMatched_acepta {fs : List Nivel} {ts : List (List UInt8)} (hf : Filtro fs) (hn : ts ≠ [])
    (hb : ∀ t ∈ ts, ∀ c ∈ t, c ≠ barra) :
    isTopicMatched (une (fs.map Nivel.bytes)) (une ts) = true ↔ Acepta fs ts := by
  induction hf generalizing ts with
  | @fin f hf =>
    obtain ⟨t, ts, rfl⟩ := List.exists_cons_of_ne_nil hn
    have ht := hb t (by simp)
    cases f with
    | resto =>
      rw [List.map_singleton, une_cons, une_cons, acepta_resto]
      simpa [cola, Nivel.bytes] using isTopicMatched_resto ht cola_cola
    | _ =>
      rw [List.map_singleton, isTopicMatched_nivel hf (by simp) ht, isTopicMatched_cola]
      simp
  | @sigue f fs hf hr hs ih =>
    obtain ⟨t, ts, rfl⟩ := List.exists_cons_of_ne_nil hn
    rw [List.forall_mem_cons] at hb
    rw [List.map_cons, isTopicMatched_nivel hf hr hb.1, isTopicMatched_cola]
    have hs0 := hs.ne_nil
    by_cases h0 : ts = []
    · subst h0
      cases f <;> simp_all
    · rw [ih h0 hb.2]
      cases f <;> simp_all

end MQTT

open MQTT in
/-- The walk takes a topic exactly when the levels of the filter take it, and then the filter stands for it.  Between
topics with no empty level, all that it misses is the parent of `#`. -/
theorem isTopicMatched_niveles {fs : List Nivel} {ts : List (List UInt8)} (hf : Filtro fs) (hn : ts ≠ [])
    (hb : ∀ t ∈ ts, ∀ c ∈ t, c ≠ barra) :
    (isTopicMatched (une (fs.map Nivel.bytes)) (une ts) = true ↔ Acepta fs ts) ∧
      (isTopicMatched (une (fs.map Nivel.bytes)) (une ts) = true → Vale fs ts) ∧
      ((∀ t ∈ ts, t ≠ []) →
        (isTopicMatched (une (fs.map Nivel.bytes)) (une ts) = true ↔ Vale fs ts ∧ fs.length ≤ ts.length)) := by
  have h := isTopicMatched_acepta hf hn hb
  refine ⟨h, fun hm => (h.1 hm).vale, fun ht => h.trans ⟨?_, ?_⟩⟩
  · intro hc
    exact ⟨hc.vale, hc.length_le⟩
  · rintro ⟨hv, hl⟩
    exact hv.acepta hl ht

/-- `a/+/#` on `a/bc/d/e`, which it takes, and on `a/bc`, the parent of `#`, which it does not. -/
theorem isTopicMatched_niveles_dos :
    (MQTT.isTopicMatched [97, 47, 43, 47, 35] [97, 47, 98, 99, 47, 100, 47, 101] = true ∧
      Vale [.texto [97], .uno, .resto] [[97], [98, 99], [100], [101]]) ∧
    MQTT.isTopicMatched [97, 47, 43, 47, 35] [97, 47, 98, 99] = false ∧
      Vale [.texto [97], .uno, .resto] [[97], [98, 99]] := by
  have hf : Filtro [.texto [97], .uno, .resto] :=
    .sigue (by simp [Nivel.Escrito, barra, mas, almohadilla]) (by decide) (.sigue trivial (by decide) (.fin trivial))
  have h1 := @isTopicMatched_niveles _ [[97], [98, 99], [100], [101]] hf (by decide) (by decide +kernel)
  have h2 := @isTopicMatched_niveles _ [[97], [98, 99]] hf (by decide) (by decide +kernel)
  have h3 := h1.1.2 (.texto (.uno (by decide) (.resto (by decide))))
  refine ⟨⟨h3, h1.2.1 h3⟩, ?_, .texto (.uno .resto)⟩
  rw [← Bool.not_eq_true]
  intro hm
  exact absurd (h2.1.1 hm).length_le (by decide)

end Wiznet
