import Mathlib
import ReqSys.Foundation.PyText

/-!
# Chunks of documents

`criar_chunks` cuts the text of a document into overlapping pieces. A chunk is known by the
document, the version of the text and the number of the piece; the version is the start of the hash
of the text, so that another text of the same document has other chunks.
-/

namespace ReqSys

namespace Rag

open PyText

structure DocumentoRAG where
  id : String
  titulo : String
  conteudo : String
  origem : String := "payload"

structure ChunkRAG where
  id : String
  documentoId : String
  titulo : String
  origem : String
  conteudo : String
  indice : ℕ
  versao : String
  deriving DecidableEq

inductive Erro
  /-- `Configuracao de chunking invalida`. -/
  | chunking
  /-- A provider answers with an error, or with another number of vectors. -/
  | provider
  /-- Vectors of different lengths. -/
  | zip
  /-- `IntegrityError`. -/
  | integridade
  /-- What ends the call before its commit. -/
  | externo
  deriving DecidableEq

/-- The hash of a text, as bytes, and the letter-case tables. -/
structure Config where
  sha256 : String → List (Fin 256)
  unicode : Unicode

/-! ## Versions -/

def hexDigit (n : Fin 16) : Char :=
  if n < 10 then Char.ofNat (48 + n) else Char.ofNat (87 + n)

/-- `hexdigest`. -/
def hexdigest (bytes : List (Fin 256)) : String :=
  String.ofList (bytes.flatMap fun b ↦
    [hexDigit (Fin.ofNat 16 (b / 16)), hexDigit (Fin.ofNat 16 (b % 16))])

def versao (cfg : Config) (texto : String) : String := take 16 (hexdigest (cfg.sha256 texto))

/-- `f'{documento.id}:{versao}:{indice}'`. -/
def chunkId (documentoId versao : String) (indice : ℕ) : String :=
  documentoId ++ ":" ++ versao ++ ":" ++ toString indice

/-! ## Pieces -/

/-- The text that is cut. -/
def DocumentoRAG.texto (d : DocumentoRAG) : String := strip d.conteudo

/-- `enumerate(range(0, comprimento, passo))`. -/
def inicios (comprimento passo : ℕ) : List (ℕ × ℕ) :=
  (List.range ((comprimento + passo - 1) / passo)).map fun indice ↦ (indice, indice * passo)

/-- The pieces from some places on, until one reaches the end of the text. -/
def pedacos (texto : String) (tamanho : ℕ) : List (ℕ × ℕ) → List (ℕ × String)
  | [] => []
  | (indice, inicio) :: resto =>
    let conteudo := strip (String.ofList ((texto.toList.drop inicio).take tamanho))
    if conteudo = "" then pedacos texto tamanho resto
    else if texto.length ≤ inicio + tamanho then [(indice, conteudo)]
    else (indice, conteudo) :: pedacos texto tamanho resto

def chunksDe (cfg : Config) (d : DocumentoRAG) (tamanho sobreposicao : ℕ) : List ChunkRAG :=
  (pedacos d.texto tamanho (inicios d.texto.length (tamanho - sobreposicao))).map fun pedaco ↦
    { id := chunkId d.id (versao cfg d.texto) pedaco.1
      documentoId := d.id
      titulo := d.titulo
      origem := d.origem
      conteudo := pedaco.2
      indice := pedaco.1
      versao := versao cfg d.texto }

/-- The sizes that `criar_chunks` accepts. -/
def Valido (tamanho sobreposicao : ℤ) : Prop :=
  100 ≤ tamanho ∧ 0 ≤ sobreposicao ∧ sobreposicao < tamanho

instance (tamanho sobreposicao : ℤ) : Decidable (Valido tamanho sobreposicao) :=
  inferInstanceAs (Decidable (_ ∧ _))

/-- `criar_chunks`. -/
def criarChunks (cfg : Config) (documentos : List DocumentoRAG) (tamanho sobreposicao : ℤ) :
    Except Erro (List ChunkRAG) :=
  if Valido tamanho sobreposicao then
    .ok (documentos.flatMap fun d ↦ chunksDe cfg d tamanho.toNat sobreposicao.toNat)
  else .error .chunking

variable {cfg : Config} {d : DocumentoRAG} {documentos : List DocumentoRAG}

/-! ## Which document a chunk is of -/

theorem colon_ne_hexDigit (n : Fin 16) : hexDigit n ≠ ':' := by
  revert n
  decide

theorem colon_notMem_versao (cfg : Config) (texto : String) :
    ':' ∉ (versao cfg texto).toList := by
  intro h
  rw [versao, take, String.toList_ofList] at h
  have h := List.mem_of_mem_take h
  rw [hexdigest, String.toList_ofList] at h
  obtain ⟨b, -, hb⟩ := List.mem_flatMap.mp h
  simp only [List.mem_cons, List.not_mem_nil, or_false] at hb
  obtain hb | hb := hb
  · exact colon_ne_hexDigit _ hb.symm
  · exact colon_ne_hexDigit _ hb.symm

theorem colon_notMem_toString (n : ℕ) : ':' ∉ (toString n).toList := by
  intro h
  rw [Nat.toString_eq_ofList_toDigits, String.toList_ofList] at h
  exact absurd (Nat.isDigit_of_mem_toDigits (by decide) le_rfl h) (by decide)

/-- The text before the last separator. -/
theorem append_separator_inj {α : Type*} {c : α} {a a' b b' : List α} (hb : c ∉ b) (hb' : c ∉ b')
    (h : a ++ c :: b = a' ++ c :: b') : a = a' := by
  obtain ⟨m, ha', hm⟩ | ⟨m, ha, hm⟩ := List.append_eq_append_iff.mp h
  · cases m with
    | nil => simpa using ha'.symm
    | cons x m =>
      have hmem : c ∈ b := by
        obtain ⟨-, rfl⟩ := List.cons.inj hm
        simp
      exact absurd hmem hb
  · cases m with
    | nil => simpa using ha
    | cons x m =>
      have hmem : c ∈ b' := by
        obtain ⟨-, rfl⟩ := List.cons.inj hm
        simp
      exact absurd hmem hb'

/-- **A chunk tells its document.** -/
theorem documentoId_of_chunkId {d d' v v' : String} {i i' : ℕ} (hv : ':' ∉ v.toList)
    (hv' : ':' ∉ v'.toList) (h : chunkId d v i = chunkId d' v' i') : d = d' := by
  have hlist : ∀ (d v : String) (i : ℕ), (chunkId d v i).toList
      = (d.toList ++ ':' :: v.toList) ++ ':' :: (toString i).toList := by
    intro d v i
    have hcolon : ":".toList = [':'] := by decide
    simp only [chunkId, String.toList_append, hcolon, List.append_assoc, List.cons_append,
      List.nil_append]
  have h := congrArg String.toList h
  rw [hlist, hlist] at h
  have h := append_separator_inj (colon_notMem_toString i) (colon_notMem_toString i') h
  exact String.toList_inj.mp (append_separator_inj hv hv' h)

/-! ## Chunks of a text -/

/-- A chunk that `criar_chunks` makes of a text, with some sizes. -/
def DoTexto (cfg : Config) (texto documentoId id conteudo : String) : Prop :=
  ∃ (d : DocumentoRAG) (tamanho sobreposicao : ℤ) (chunks : List ChunkRAG),
    d.id = documentoId ∧ d.texto = texto ∧ criarChunks cfg [d] tamanho sobreposicao = .ok chunks ∧
      ∃ c ∈ chunks, c.id = id ∧ c.conteudo = conteudo

theorem eq_of_mem_chunksDe {tamanho sobreposicao : ℕ} {c : ChunkRAG}
    (h : c ∈ chunksDe cfg d tamanho sobreposicao) :
    c.documentoId = d.id ∧ c.versao = versao cfg d.texto ∧
      c.id = chunkId d.id (versao cfg d.texto) c.indice := by
  obtain ⟨pedaco, -, rfl⟩ := List.mem_map.mp h
  exact ⟨rfl, rfl, rfl⟩

theorem DoTexto.exists_chunkId {texto documentoId id conteudo : String}
    (h : DoTexto cfg texto documentoId id conteudo) :
    ∃ indice, id = chunkId documentoId (versao cfg texto) indice := by
  obtain ⟨d, tamanho, sobreposicao, chunks, rfl, rfl, hchunks, c, hc, rfl, rfl⟩ := h
  rw [criarChunks] at hchunks
  split at hchunks
  · cases hchunks
    rw [List.flatMap_singleton] at hc
    exact ⟨c.indice, (eq_of_mem_chunksDe hc).2.2⟩
  · cases hchunks

/-- Each chunk is of one of the documents. -/
theorem doTexto_of_criarChunks {tamanho sobreposicao : ℤ} {chunks : List ChunkRAG}
    (h : criarChunks cfg documentos tamanho sobreposicao = .ok chunks) {c : ChunkRAG}
    (hc : c ∈ chunks) : ∃ d ∈ documentos, c.documentoId = d.id ∧ d.texto ≠ "" ∧
      DoTexto cfg d.texto d.id c.id c.conteudo := by
  rw [criarChunks] at h
  split at h
  next hvalido =>
    cases h
    obtain ⟨d, hd, hc⟩ := List.mem_flatMap.mp hc
    refine ⟨d, hd, (eq_of_mem_chunksDe hc).1, fun hempty ↦ ?_, d, tamanho, sobreposicao,
      chunksDe cfg d tamanho.toNat sobreposicao.toNat, rfl, rfl, ?_, c, hc, rfl, rfl⟩
    · -- an empty text has no pieces
      have hnil : ∀ l, pedacos "" tamanho.toNat l = [] := by
        intro l
        induction l with
        | nil => rfl
        | cons x l ih =>
          obtain ⟨indice, inicio⟩ := x
          have hdrop : "".toList.drop inicio = [] := List.drop_nil
          have hstrip : strip (String.ofList ((("" : String).toList.drop inicio).take
              tamanho.toNat)) = "" := by
            rw [hdrop, List.take_nil]
            rfl
          simp only [pedacos, hstrip, if_true]
          exact ih
      rw [chunksDe, hempty, hnil] at hc
      exact absurd hc List.not_mem_nil
    · rw [criarChunks, if_pos hvalido, List.flatMap_singleton]
  next => cases h

/-- A short text is one chunk. -/
theorem pedacos_of_length_le {texto : String} (tamanho passo : ℕ) (hstrip : strip texto = texto)
    (hne : texto ≠ "") (hlen : texto.length ≤ tamanho) (hpasso : 0 < passo) :
    pedacos texto tamanho (inicios texto.length passo) = [(0, texto)] := by
  have hlength : 0 < texto.length := by
    rw [← String.length_toList, List.length_pos_iff]
    exact fun hnil ↦ hne (String.toList_inj.mp hnil)
  obtain ⟨n, hn⟩ : ∃ n, (texto.length + passo - 1) / passo = n + 1 :=
    Nat.exists_eq_succ_of_ne_zero (Nat.div_pos (by omega) hpasso).ne'
  have htudo : strip (String.ofList ((texto.toList.drop 0).take tamanho)) = texto := by
    rw [List.drop_zero, List.take_of_length_le (by rwa [String.length_toList]),
      String.ofList_toList, hstrip]
  rw [inicios, hn, List.range_succ_eq_map, List.map_cons, zero_mul]
  simp only [pedacos, htudo, if_neg hne, zero_add, if_pos hlen]

/-- With every size a text of up to a hundred characters is its only chunk. -/
theorem DoTexto.eq_of_length_le {texto documentoId id conteudo : String}
    (h : DoTexto cfg texto documentoId id conteudo) (hne : texto ≠ "")
    (hlen : texto.length ≤ 100) : conteudo = texto := by
  obtain ⟨d, tamanho, sobreposicao, chunks, -, rfl, hchunks, c, hc, -, rfl⟩ := h
  rw [criarChunks] at hchunks
  split at hchunks
  next hvalido =>
    cases hchunks
    obtain ⟨htamanho, hsobreposicao, hlt⟩ := hvalido
    have hstrip : strip d.texto = d.texto := strip_strip d.conteudo
    have hpedacos := pedacos_of_length_le tamanho.toNat
      (tamanho.toNat - sobreposicao.toNat) hstrip hne (by omega) (by omega)
    rw [List.flatMap_singleton, chunksDe, hpedacos] at hc
    rw [List.mem_singleton.mp hc]
  next => cases hchunks

end Rag

end ReqSys
