import Mathlib
import ReqSys.Foundation.Stripping
import ReqSys.Rag.Chunks

/-!
# Chunks cover the text

The windows of `criar_chunks` begin at the multiples of the step and are stripped one by one. A
window of blanks is left out without asking whether it reaches the end; it does no harm, for the
loop only goes on. What the loop keeps is that each place of the text is in the window at the last
multiple of the step before it, or, when the loop has stopped earlier, in the window that reached
the end of the text.
-/

namespace ReqSys

namespace Rag

open PyText Stripping

variable {cfg : Config} {d : DocumentoRAG} {documentos : List DocumentoRAG} {texto : String}
  {tamanho passo inicio indice k : ℕ}

/-! ## One window -/

/-- `texto[inicio:inicio + tamanho]`. -/
def janela (texto : String) (tamanho inicio : ℕ) : List Char :=
  (texto.toList.drop inicio).take tamanho

/-- The text of a window. -/
def peca (texto : String) (tamanho inicio : ℕ) : String :=
  strip (String.ofList (janela texto tamanho inicio))

/-- Where the text of a window begins. -/
def lugar (texto : String) (tamanho inicio : ℕ) : ℕ :=
  inicio + margin isSpace (janela texto tamanho inicio)

theorem toList_peca (texto : String) (tamanho inicio : ℕ) :
    (peca texto tamanho inicio).toList = stripped isSpace (janela texto tamanho inicio) := by
  rw [peca, toList_strip, String.toList_ofList]
  rfl

theorem length_peca (texto : String) (tamanho inicio : ℕ) :
    (peca texto tamanho inicio).length
      = (stripped isSpace (janela texto tamanho inicio)).length := by
  rw [← String.length_toList, toList_peca]

theorem stripped_ne_nil_iff :
    stripped isSpace (janela texto tamanho inicio) ≠ [] ↔ peca texto tamanho inicio ≠ "" := by
  rw [← toList_peca, ne_eq, ne_eq, not_iff_not, ← String.toList_empty, String.toList_inj]

theorem length_janela (texto : String) (tamanho inicio : ℕ) :
    (janela texto tamanho inicio).length = min tamanho (texto.length - inicio) := by
  rw [janela, List.length_take, List.length_drop, String.length_toList]

theorem margin_add_length_peca_le (texto : String) (tamanho inicio : ℕ) :
    margin isSpace (janela texto tamanho inicio) + (peca texto tamanho inicio).length
      ≤ min tamanho (texto.length - inicio) := by
  rw [length_peca, ← length_janela]
  exact margin_add_length_le _ _

theorem length_peca_le (texto : String) (tamanho inicio : ℕ) :
    (peca texto tamanho inicio).length ≤ tamanho := by
  have hle := margin_add_length_peca_le texto tamanho inicio
  omega

theorem lugar_add_length_le (h : peca texto tamanho inicio ≠ "") :
    lugar texto tamanho inicio + (peca texto tamanho inicio).length
      ≤ min (inicio + tamanho) texto.length := by
  have hle := margin_add_length_peca_le texto tamanho inicio
  have hpos : 0 < (peca texto tamanho inicio).length := by
    rw [length_peca]
    exact List.length_pos_iff.mpr (stripped_ne_nil_iff.mpr h)
  rw [lugar]
  omega

/-- **A piece is what stands at its place.** -/
theorem toList_peca_eq (texto : String) (tamanho inicio : ℕ) :
    (peca texto tamanho inicio).toList = (texto.toList.drop (lugar texto tamanho inicio)).take
      (peca texto tamanho inicio).length := by
  have hle := margin_add_length_peca_le texto tamanho inicio
  have htake := stripped_eq_take isSpace (janela texto tamanho inicio)
  rw [← length_peca, ← toList_peca] at htake
  rw [htake, lugar]
  generalize margin isSpace (janela texto tamanho inicio) = m at hle
  have hmin : min (peca texto tamanho inicio).length (tamanho - m)
      = (peca texto tamanho inicio).length := min_eq_left (by omega)
  rw [janela, List.drop_take, List.take_take, List.drop_drop, hmin]

theorem getElem_janela (hinicio : inicio ≤ k) (hk : k < inicio + tamanho)
    (hlt : k < texto.toList.length) :
    ∃ hlt' : k - inicio < (janela texto tamanho inicio).length,
      (janela texto tamanho inicio)[k - inicio] = texto.toList[k] := by
  have hlt' : k - inicio < (janela texto tamanho inicio).length := by
    rw [length_janela, ← String.length_toList]
    omega
  refine ⟨hlt', ?_⟩
  simp only [janela, List.getElem_take, List.getElem_drop, Nat.add_sub_cancel' hinicio]

/-- **The text of a window has every place of the window that is no blank.** -/
theorem lugar_le_and_lt (hinicio : inicio ≤ k) (hk : k < inicio + tamanho)
    (hlt : k < texto.toList.length) (hblank : isSpace texto.toList[k] = false) :
    lugar texto tamanho inicio ≤ k ∧
      k < lugar texto tamanho inicio + (peca texto tamanho inicio).length := by
  obtain ⟨hlt', hget⟩ := getElem_janela hinicio hk hlt
  have hkept : isSpace (janela texto tamanho inicio)[k - inicio] = false := by rw [hget, hblank]
  have hle := margin_le hlt' hkept
  have hgt := lt_margin_add_length hlt' hkept
  rw [← length_peca] at hgt
  rw [lugar]
  omega

theorem peca_ne_empty (hinicio : inicio ≤ k) (hk : k < inicio + tamanho)
    (hlt : k < texto.toList.length) (hblank : isSpace texto.toList[k] = false) :
    peca texto tamanho inicio ≠ "" := by
  intro hempty
  have hplace := lugar_le_and_lt hinicio hk hlt hblank
  have hzero : (peca texto tamanho inicio).length = 0 := by rw [hempty]; rfl
  omega

/-- At its place stands no blank. -/
theorem isSpace_at_lugar (h : peca texto tamanho inicio ≠ "") :
    ∃ hlt : lugar texto tamanho inicio < texto.toList.length,
      isSpace texto.toList[lugar texto tamanho inicio] = false := by
  obtain ⟨hlt, hkept⟩ := kept_at_margin (stripped_ne_nil_iff.mpr h)
  have hmargin := hlt
  rw [length_janela, ← String.length_toList] at hmargin
  have hplace : lugar texto tamanho inicio < texto.toList.length := by
    rw [lugar]
    omega
  refine ⟨hplace, ?_⟩
  simp only [janela, List.getElem_take, List.getElem_drop] at hkept
  exact hkept

/-- A window further back has its text further back. -/
theorem lugar_le_lugar {inicio' : ℕ} (hle : inicio ≤ inicio')
    (h : peca texto tamanho inicio' ≠ "") :
    lugar texto tamanho inicio ≤ lugar texto tamanho inicio' := by
  by_cases hin : lugar texto tamanho inicio' < inicio + tamanho
  · obtain ⟨hlt, hblank⟩ := isSpace_at_lugar h
    exact (lugar_le_and_lt (hle.trans (Nat.le_add_right _ _)) hin hlt hblank).1
  · have hmargin := margin_add_length_peca_le texto tamanho inicio
    push Not at hin
    refine le_trans ?_ hin
    rw [lugar]
    omega

/-! ## The loop -/

/-- The pieces of the windows with the given numbers. -/
def pedacosEm (texto : String) (tamanho passo : ℕ) (indices : List ℕ) : List (ℕ × String) :=
  pedacos texto tamanho (indices.map fun indice ↦ (indice, indice * passo))

theorem pedacosEm_cons (texto : String) (tamanho passo indice : ℕ) (indices : List ℕ) :
    pedacosEm texto tamanho passo (indice :: indices)
      = if peca texto tamanho (indice * passo) = "" then pedacosEm texto tamanho passo indices
        else if texto.length ≤ indice * passo + tamanho then
          [(indice, peca texto tamanho (indice * passo))]
        else (indice, peca texto tamanho (indice * passo)) ::
          pedacosEm texto tamanho passo indices := rfl

/-- The loop goes forward and leaves windows out. -/
theorem pedacosEm_sublist (texto : String) (tamanho passo : ℕ) (indices : List ℕ) :
    (pedacosEm texto tamanho passo indices).Sublist
      (indices.map fun indice ↦ (indice, peca texto tamanho (indice * passo))) := by
  induction indices with
  | nil => exact List.Sublist.refl []
  | cons indice indices ih =>
    rw [pedacosEm_cons, List.map_cons]
    split_ifs
    · exact ih.cons _
    · exact (List.nil_sublist _).cons_cons _
    · exact ih.cons_cons _

theorem ne_empty_of_mem_pedacosEm {indices : List ℕ} {pedaco : ℕ × String}
    (h : pedaco ∈ pedacosEm texto tamanho passo indices) : pedaco.2 ≠ "" := by
  induction indices with
  | nil => exact absurd h List.not_mem_nil
  | cons indice indices ih =>
    rw [pedacosEm_cons] at h
    split_ifs at h with hempty hend
    · exact ih h
    · rw [List.mem_singleton.mp h]
      exact hempty
    · obtain rfl | h := List.mem_cons.mp h
      · exact hempty
      · exact ih h

/-- **The loop stops at the first piece that reaches the end.** -/
theorem pairwise_pedacosEm (texto : String) (tamanho passo : ℕ) (indices : List ℕ) :
    (pedacosEm texto tamanho passo indices).Pairwise fun pedaco _ ↦
      pedaco.1 * passo + tamanho < texto.length := by
  induction indices with
  | nil => exact List.Pairwise.nil
  | cons indice indices ih =>
    rw [pedacosEm_cons]
    split_ifs with hempty hend
    · exact ih
    · exact List.pairwise_singleton _ _
    · exact List.pairwise_cons.mpr ⟨fun _ _ ↦ not_le.mp hend, ih⟩

/-- **Each place of a window is in a piece.** When the loop does not come to the window, it stopped
at one before it that reaches the end, and so past the place. -/
theorem exists_pedaco {indices : List ℕ} (hsorted : indices.Pairwise (· < ·))
    (hmem : indice ∈ indices) (hinicio : indice * passo ≤ k) (hk : k < indice * passo + tamanho)
    (hlt : k < texto.toList.length) (hblank : isSpace texto.toList[k] = false) :
    ∃ indice', (indice', peca texto tamanho (indice' * passo))
        ∈ pedacosEm texto tamanho passo indices ∧
      indice' * passo ≤ k ∧ k < indice' * passo + tamanho := by
  induction indices with
  | nil => exact absurd hmem List.not_mem_nil
  | cons primeiro indices ih =>
    obtain ⟨hfirst, hsorted⟩ := List.pairwise_cons.mp hsorted
    rw [pedacosEm_cons]
    by_cases hhere : indice = primeiro
    · subst hhere
      rw [if_neg (peca_ne_empty hinicio hk hlt hblank)]
      refine ⟨indice, ?_, hinicio, hk⟩
      split_ifs
      · exact List.mem_singleton.mpr rfl
      · exact List.mem_cons_self
    · have hmem := (List.mem_cons.mp hmem).resolve_left hhere
      obtain ⟨indice', hmem', hplace⟩ := ih hsorted hmem
      split_ifs with hempty hend
      · exact ⟨indice', hmem', hplace⟩
      · have hbefore : primeiro * passo ≤ indice * passo :=
          Nat.mul_le_mul_right passo (hfirst indice hmem).le
        rw [String.length_toList] at hlt
        exact ⟨primeiro, List.mem_singleton.mpr rfl, hbefore.trans hinicio, hlt.trans_le hend⟩
      · exact ⟨indice', List.mem_cons_of_mem _ hmem', hplace⟩

/-- The window at the last multiple of the step before a place has it. -/
theorem exists_inicio {passo : ℕ} (hpasso : 0 < passo) (hle : passo ≤ tamanho) (hlt : k < texto.length) :
    ∃ indice ∈ List.range ((texto.length + passo - 1) / passo),
      indice * passo ≤ k ∧ k < indice * passo + tamanho := by
  refine ⟨k / passo, ?_, Nat.div_mul_le_self k passo, ?_⟩
  · rw [List.mem_range, Nat.lt_iff_add_one_le, Nat.le_div_iff_mul_le hpasso, Nat.succ_mul]
    have hmul := Nat.div_mul_le_self k passo
    omega
  · have hmod := Nat.div_add_mod' k passo
    have hrest := Nat.mod_lt k hpasso
    omega

/-! ## The chunks of a document -/

/-- The windows of a document. -/
def pedacosDe (d : DocumentoRAG) (tamanho passo : ℕ) : List (ℕ × String) :=
  pedacosEm d.texto tamanho passo (List.range ((d.texto.length + passo - 1) / passo))

/-- The chunk of a piece. -/
def chunkDe (cfg : Config) (d : DocumentoRAG) (pedaco : ℕ × String) : ChunkRAG where
  id := chunkId d.id (versao cfg d.texto) pedaco.1
  documentoId := d.id
  titulo := d.titulo
  origem := d.origem
  conteudo := pedaco.2
  indice := pedaco.1
  versao := versao cfg d.texto

theorem chunksDe_eq (cfg : Config) (d : DocumentoRAG) (tamanho sobreposicao : ℕ) :
    chunksDe cfg d tamanho sobreposicao
      = (pedacosDe d tamanho (tamanho - sobreposicao)).map (chunkDe cfg d) := rfl

/-- Where a chunk begins in the text. -/
def ChunkRAG.lugar (texto : String) (tamanho passo : ℕ) (c : ChunkRAG) : ℕ :=
  Rag.lugar texto tamanho (c.indice * passo)

/-- The chunks of a document cover its text. -/
structure Cobertura (d : DocumentoRAG) (tamanho passo : ℕ) (chunks : List ChunkRAG) : Prop where
  /-- A document with a character that is no blank has a chunk. -/
  ne_nil : (∃ c ∈ d.conteudo.toList, isSpace c = false) → chunks ≠ []
  /-- Each place of the text that is no blank is in a chunk. -/
  covered : ∀ (k : ℕ) (hk : k < d.texto.toList.length), isSpace d.texto.toList[k] = false →
    ∃ c ∈ chunks, c.lugar d.texto tamanho passo ≤ k ∧
      k < c.lugar d.texto tamanho passo + c.conteudo.length
  /-- A chunk is not longer than the given size. -/
  length_le : ∀ c ∈ chunks, c.conteudo.length ≤ tamanho
  /-- A chunk is what stands in the text at its place, -/
  piece : ∀ c ∈ chunks, c.lugar d.texto tamanho passo + c.conteudo.length ≤ d.texto.length ∧
    c.conteudo.toList
      = (d.texto.toList.drop (c.lugar d.texto tamanho passo)).take c.conteudo.length
  /-- and so a piece of the document. -/
  isInfix : ∀ c ∈ chunks, c.conteudo ≠ "" ∧ c.conteudo.toList <:+: d.conteudo.toList
  /-- The numbers go up. -/
  increasing : chunks.Pairwise fun c c' ↦ c.indice < c'.indice
  /-- No chunk begins after one that reaches the end of the text. -/
  last : ∀ c ∈ chunks, c.lugar d.texto tamanho passo + c.conteudo.length = d.texto.length →
    ∀ c' ∈ chunks, c'.indice ≤ c.indice ∧
      c'.lugar d.texto tamanho passo ≤ c.lugar d.texto tamanho passo

theorem conteudo_of_mem_chunksDe {sobreposicao : ℕ} {c : ChunkRAG}
    (h : c ∈ chunksDe cfg d tamanho sobreposicao) :
    c.conteudo = peca d.texto tamanho (c.indice * (tamanho - sobreposicao)) ∧ c.conteudo ≠ "" := by
  rw [chunksDe_eq] at h
  obtain ⟨pedaco, hpedaco, rfl⟩ := List.mem_map.mp h
  obtain ⟨indice, -, rfl⟩ := List.mem_map.mp
    ((pedacosEm_sublist d.texto tamanho _ _).subset hpedaco)
  exact ⟨rfl, ne_empty_of_mem_pedacosEm hpedaco⟩

theorem pairwise_indice (cfg : Config) (d : DocumentoRAG) (tamanho sobreposicao : ℕ) :
    (chunksDe cfg d tamanho sobreposicao).Pairwise fun c c' ↦ c.indice < c'.indice := by
  have hsub := (pedacosEm_sublist d.texto tamanho (tamanho - sobreposicao)
    (List.range ((d.texto.length + (tamanho - sobreposicao) - 1) / (tamanho - sobreposicao))))
  rw [chunksDe_eq, List.pairwise_map]
  refine List.Pairwise.sublist hsub ?_
  rw [List.pairwise_map]
  exact List.pairwise_lt_range

/-- Where only the last member of an increasing list can have a property, one that has it is the
greatest. -/
theorem le_of_pairwise {α : Type*} {f : α → ℕ} {q : α → Prop} {l : List α}
    (hup : l.Pairwise fun a b ↦ f a < f b) (hend : l.Pairwise fun a _ ↦ ¬q a) {a b : α}
    (ha : a ∈ l) (hb : b ∈ l) (hq : q a) : f b ≤ f a := by
  induction l with
  | nil => exact absurd ha List.not_mem_nil
  | cons x l ih =>
    obtain ⟨hx, hup⟩ := List.pairwise_cons.mp hup
    obtain ⟨hxend, hend⟩ := List.pairwise_cons.mp hend
    obtain hax | ha' := List.mem_cons.mp ha
    · obtain hbx | hb' := List.mem_cons.mp hb
      · rw [hax, hbx]
      · exact absurd (hax ▸ hq) (hxend b hb')
    · obtain hbx | hb' := List.mem_cons.mp hb
      · rw [hbx]
        exact (hx a ha').le
      · exact ih hup hend ha' hb'

theorem cobertura_chunksDe (cfg : Config) (d : DocumentoRAG) {tamanho sobreposicao : ℕ}
    (hlt : sobreposicao < tamanho) :
    Cobertura d tamanho (tamanho - sobreposicao) (chunksDe cfg d tamanho sobreposicao) := by
  have hcovered : ∀ (k : ℕ) (hk : k < d.texto.toList.length), isSpace d.texto.toList[k] = false →
      ∃ c ∈ chunksDe cfg d tamanho sobreposicao,
        c.lugar d.texto tamanho (tamanho - sobreposicao) ≤ k ∧
          k < c.lugar d.texto tamanho (tamanho - sobreposicao) + c.conteudo.length := by
    intro k hk hblank
    have hk' : k < d.texto.length := by rwa [String.length_toList] at hk
    have hpasso : 0 < tamanho - sobreposicao := by omega
    obtain ⟨indice, hindice, hfrom, hto⟩ :=
      exists_inicio hpasso (Nat.sub_le tamanho sobreposicao) hk'
    obtain ⟨indice', hmem, hfrom', hto'⟩ :=
      exists_pedaco List.pairwise_lt_range hindice hfrom hto hk hblank
    exact ⟨_, List.mem_map_of_mem hmem, lugar_le_and_lt hfrom' hto' hk hblank⟩
  refine ⟨?_, hcovered, ?_, ?_, ?_, pairwise_indice cfg d tamanho sobreposicao, ?_⟩
  · rintro ⟨c, hc, hblank⟩ hnil
    -- the character is left by stripping, and the chunk that has it is one
    have hfirst : stripped isSpace d.conteudo.toList ≠ [] := stripped_ne_nil hc hblank
    have hlast := kept_at_last hfirst
    obtain ⟨k, hk, hget⟩ := List.getElem_of_mem (List.getLast_mem hfirst)
    have htexto : d.texto.toList = stripped isSpace d.conteudo.toList := toList_strip d.conteudo
    rw [← hget] at hlast
    obtain ⟨c', hc', -⟩ := hcovered k (htexto ▸ hk) (by simpa only [htexto] using hlast)
    rw [hnil] at hc'
    exact absurd hc' List.not_mem_nil
  · intro c hc
    rw [(conteudo_of_mem_chunksDe hc).1]
    exact length_peca_le _ _ _
  · intro c hc
    obtain ⟨hconteudo, hne⟩ := conteudo_of_mem_chunksDe hc
    rw [hconteudo] at hne ⊢
    exact ⟨(lugar_add_length_le hne).trans (min_le_right _ _), toList_peca_eq _ _ _⟩
  · intro c hc
    obtain ⟨hconteudo, hne⟩ := conteudo_of_mem_chunksDe hc
    refine ⟨hne, ?_⟩
    have htexto : d.texto.toList <:+: d.conteudo.toList := by
      rw [DocumentoRAG.texto, toList_strip]
      exact stripped_isInfix _ _
    rw [hconteudo, toList_peca_eq]
    exact ((List.take_prefix _ _).isInfix.trans (List.drop_suffix _ _).isInfix).trans htexto
  · intro c hc hend c' hc'
    have hindice : c'.indice ≤ c.indice := by
      refine le_of_pairwise (q := fun c ↦
        d.texto.length ≤ c.indice * (tamanho - sobreposicao) + tamanho)
        (pairwise_indice cfg d tamanho sobreposicao) ?_ hc hc' ?_
      · rw [chunksDe_eq, List.pairwise_map]
        refine (pairwise_pedacosEm d.texto tamanho _ _).imp fun hlt ↦ ?_
        exact not_le.mpr hlt
      · obtain ⟨hconteudo, hne⟩ := conteudo_of_mem_chunksDe hc
        rw [hconteudo] at hne hend
        have hle := (lugar_add_length_le hne).trans (min_le_left _ _)
        rw [ChunkRAG.lugar] at hend
        rwa [hend] at hle
    obtain ⟨hconteudo, hne⟩ := conteudo_of_mem_chunksDe hc
    rw [hconteudo] at hne
    exact ⟨hindice, lugar_le_lugar (Nat.mul_le_mul_right _ hindice) hne⟩

/-! ## All documents -/

/-- A chunk tells its number. -/
theorem chunkId_injective (documentoId v : String) : (chunkId documentoId v).Injective := by
  intro i i' h
  have h := congrArg String.toList h
  simp only [chunkId, String.toList_append] at h
  exact Nat.repr_inj.mp (String.toList_inj.mp (List.append_cancel_left h))

theorem nodup_ids_chunksDe (cfg : Config) (d : DocumentoRAG) (tamanho sobreposicao : ℕ) :
    ((chunksDe cfg d tamanho sobreposicao).map ChunkRAG.id).Nodup := by
  have hids : (chunksDe cfg d tamanho sobreposicao).map ChunkRAG.id
      = ((chunksDe cfg d tamanho sobreposicao).map ChunkRAG.indice).map
        (chunkId d.id (versao cfg d.texto)) := by
    rw [List.map_map]
    exact List.map_congr_left fun c hc ↦ (eq_of_mem_chunksDe hc).2.2
  rw [hids]
  refine List.Nodup.map (chunkId_injective _ _) ?_
  exact (List.pairwise_map.mpr (pairwise_indice cfg d tamanho sobreposicao)).imp ne_of_lt

/-- Chunks with one id are of documents with one id. -/
theorem id_eq_of_mem_chunksDe {d' : DocumentoRAG} {sobreposicao : ℕ} {c c' : ChunkRAG}
    (h : c ∈ chunksDe cfg d tamanho sobreposicao) (h' : c' ∈ chunksDe cfg d' tamanho sobreposicao)
    (heq : c.id = c'.id) : d.id = d'.id := by
  rw [(eq_of_mem_chunksDe h).2.2, (eq_of_mem_chunksDe h').2.2] at heq
  exact documentoId_of_chunkId (colon_notMem_versao _ _) (colon_notMem_versao _ _) heq

theorem nodup_ids_flatMap (cfg : Config) (tamanho sobreposicao : ℕ)
    (hids : (documentos.map DocumentoRAG.id).Nodup) :
    ((documentos.flatMap fun d ↦ chunksDe cfg d tamanho sobreposicao).map ChunkRAG.id).Nodup := by
  rw [List.map_flatMap, List.nodup_flatMap]
  refine ⟨fun d _ ↦ nodup_ids_chunksDe cfg d tamanho sobreposicao, ?_⟩
  refine (List.pairwise_map.mp hids).imp fun hne ↦ ?_
  intro id hid hid'
  obtain ⟨c, hc, rfl⟩ := List.mem_map.mp hid
  obtain ⟨c', hc', heq⟩ := List.mem_map.mp hid'
  exact hne (id_eq_of_mem_chunksDe hc hc' heq.symm)

/-- The chunks that tell a document are those made of it. -/
theorem filter_flatMap (cfg : Config) (tamanho sobreposicao : ℕ)
    (hids : (documentos.map DocumentoRAG.id).Nodup) (hd : d ∈ documentos) :
    (documentos.flatMap fun d ↦ chunksDe cfg d tamanho sobreposicao).filter
      (fun c ↦ c.documentoId = d.id) = chunksDe cfg d tamanho sobreposicao := by
  have hown : ∀ d', (chunksDe cfg d' tamanho sobreposicao).filter (fun c ↦ c.documentoId = d.id)
      = if d'.id = d.id then chunksDe cfg d' tamanho sobreposicao else [] := by
    intro d'
    split_ifs with heq
    · exact List.filter_eq_self.mpr fun c hc ↦ by
        rw [decide_eq_true_iff, (eq_of_mem_chunksDe hc).1, heq]
    · exact List.filter_eq_nil_iff.mpr fun c hc ↦ by
        rwa [decide_eq_true_iff, (eq_of_mem_chunksDe hc).1]
  induction documentos with
  | nil => exact absurd hd List.not_mem_nil
  | cons d' documentos ih =>
    rw [List.map_cons, List.nodup_cons] at hids
    rw [List.flatMap_cons, List.filter_append, hown]
    obtain rfl | hd := List.mem_cons.mp hd
    · have hrest : (documentos.flatMap fun d ↦ chunksDe cfg d tamanho sobreposicao).filter
          (fun c ↦ c.documentoId = d.id) = [] := by
        refine List.filter_eq_nil_iff.mpr fun c hc heq ↦ ?_
        obtain ⟨d', hd', hc⟩ := List.mem_flatMap.mp hc
        rw [decide_eq_true_iff, (eq_of_mem_chunksDe hc).1] at heq
        exact hids.1 (List.mem_map.mpr ⟨d', hd', heq⟩)
      rw [if_pos rfl, hrest, List.append_nil]
    · have hne : d'.id ≠ d.id := fun heq ↦ hids.1 (List.mem_map.mpr ⟨d, hd, heq.symm⟩)
      rw [if_neg hne, List.nil_append, ih hids.2 hd]

/-- **Chunks cover the text.** Of documents with distinct ids, with sizes that `criar_chunks`
accepts, each document's chunks cover its text, and no two chunks have one id. -/
theorem criarChunks_covers (cfg : Config) {documentos : List DocumentoRAG}
    {tamanho sobreposicao : ℤ} (hids : (documentos.map DocumentoRAG.id).Nodup)
    (htamanho : 100 ≤ tamanho) (hsobreposicao : 0 ≤ sobreposicao)
    (hlt : sobreposicao < tamanho) :
    ∃ chunks, criarChunks cfg documentos tamanho sobreposicao = .ok chunks ∧
      (chunks.map ChunkRAG.id).Nodup ∧
      (∀ c ∈ chunks, ∃ d ∈ documentos, c.documentoId = d.id) ∧
      ∀ d ∈ documentos, Cobertura d tamanho.toNat (tamanho.toNat - sobreposicao.toNat)
        (chunks.filter fun c ↦ c.documentoId = d.id) := by
  refine ⟨documentos.flatMap fun d ↦ chunksDe cfg d tamanho.toNat sobreposicao.toNat,
    if_pos ⟨htamanho, hsobreposicao, hlt⟩, nodup_ids_flatMap cfg _ _ hids, ?_, ?_⟩
  · intro c hc
    obtain ⟨d, hd, hc⟩ := List.mem_flatMap.mp hc
    exact ⟨d, hd, (eq_of_mem_chunksDe hc).1⟩
  · intro d hd
    rw [filter_flatMap cfg _ _ hids hd]
    exact cobertura_chunksDe cfg d (by omega)

private def exemplo : DocumentoRAG :=
  { id := "doc-1", titulo := "Documento 1", conteudo := "  requisito aprovado " }

private theorem mod_lt_byte (n : ℕ) : n % 256 < 256 := Nat.mod_lt n (Nat.succ_pos 255)

/-- The hash of that text. -/
private def exemploCfg : Config where
  sha256 texto :=
    if texto = "requisito aprovado" then
      ([212, 123, 113, 117, 122, 76, 19, 45, 253, 18, 96, 109, 30, 55, 249, 209, 41, 4, 45, 79, 202,
        26, 211, 115, 23, 112, 138, 0, 117, 248, 39, 51] : List ℕ).map
        fun n ↦ ⟨n % 256, mod_lt_byte n⟩
    else []
  unicode := Unicode.ascii

/-- A document of one chunk. -/
theorem criarChunks_covers_sample :
    (∃ chunks, criarChunks exemploCfg [exemplo] 900 120 = .ok chunks ∧
      (chunks.map ChunkRAG.id).Nodup ∧
      (∀ c ∈ chunks, ∃ d ∈ [exemplo], c.documentoId = d.id) ∧
      ∀ d ∈ [exemplo], Cobertura d (Int.toNat 900) (Int.toNat 900 - Int.toNat 120)
        (chunks.filter fun c ↦ c.documentoId = d.id)) :=
  criarChunks_covers _ (by decide) (by decide) (by decide) (by decide)

end Rag

end ReqSys
