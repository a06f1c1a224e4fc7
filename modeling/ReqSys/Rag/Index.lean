import Mathlib
import ReqSys.Foundation.Checked
import ReqSys.Foundation.TransitionSystem
import ReqSys.Rag.Chunks

/-!
# The persistent index

`indexar_chunks_persistentes` cuts the documents of a call into chunks, embeds them and stores a row
for each chunk, or new values in the row that has the chunk already. It never deletes. So a row of a
text that has been replaced stays, and `recuperar_fontes_semanticas_persistidas` compares the
question with all rows of the provider that answers it.

Floating-point numbers are a parameter: only the order of the sources and which of them have a
positive score depend on them.
-/

namespace ReqSys

namespace Rag

open PyText

/-! ## Embeddings -/

/-- The floating-point operations of `_embedding_local` and `_cosseno`. -/
structure Flutuante where
  F : Type
  zero : F
  um : F
  menosUm : F
  add : F → F → F
  mul : F → F → F
  div : F → F → F
  /-- `sum`. -/
  soma : List F → F
  log : ℕ → F
  sqrt : F → F
  isZero : F → Bool
  /-- `score <= 0`. -/
  naoPositivo : F → Bool
  menor : F → F → Bool
  /-- `round(score, 4)`. -/
  arredonda : F → F

def providerHashLocal : String := "hash-local-256"

def metodosEmbeddingPorProvider : List String := ["openai", "gemini"]

structure Settings where
  embeddingProvider : Option String := none
  embeddingApiKey : Option String := none

/-- What a call meets: the settings, what each provider answers, and whether something that is not
caught ends the call before its commit. -/
structure Ambiente (fl : Flutuante) where
  settings : Settings := {}
  gateway : String → List String → Option (List (List fl.F)) := fun _ _ ↦ none
  falha : Bool := false

/-- What `[a-zA-ZÀ-ÿ0-9_]` matches. -/
def permitido (c : Char) : Bool :=
  c.isAlphanum || c == '_' || (0xC0 ≤ c.toNat && c.toNat ≤ 0xFF)

/-- `_termos`. -/
def termos (cfg : Config) (texto : String) : List String :=
  (((cfg.unicode.lower texto).toList.splitOnP fun c ↦ !permitido c).filter (3 ≤ ·.length)).map
    String.ofList

/-- `_embedding_local`. -/
def embeddingLocal (cfg : Config) (fl : Flutuante) (texto : String) : List fl.F :=
  let ts := termos cfg texto
  let vetor := ts.eraseDups.foldl (fun vetor termo ↦
    let digest := (cfg.sha256 termo).map fun b ↦ b.val
    let posicao := (digest.take 4).foldl (fun n b ↦ n * 256 + b) 0 % 256
    let sinal := if digest.getD 4 0 % 2 = 0 then fl.um else fl.menosUm
    vetor.modify posicao fun x ↦ fl.add x (fl.mul sinal (fl.add fl.um (fl.log (ts.count termo)))))
    (List.replicate 256 fl.zero)
  let norma := fl.sqrt (fl.soma (vetor.map fun valor ↦ fl.mul valor valor))
  if fl.isZero norma then vetor else vetor.map fun valor ↦ fl.div valor norma

/-- `_cosseno`. -/
def cosseno (fl : Flutuante) (a b : List fl.F) : Except Erro fl.F :=
  if a.length = b.length then .ok (fl.soma (List.zipWith fl.mul a b)) else .error .zip

/-- `resolver_provider_embedding_ativo`. -/
def resolverProviderEmbeddingAtivo (cfg : Config) (settings : Settings) : String :=
  let provider := cfg.unicode.lower (strip (settings.embeddingProvider.getD ""))
  if provider = "" then providerHashLocal
  else if provider ∉ metodosEmbeddingPorProvider ∨ truthy settings.embeddingApiKey = false then
    providerHashLocal
  else provider

/-- `_embeddings_lote`. -/
def embeddingsLote (cfg : Config) (fl : Flutuante) (amb : Ambiente fl) (textos : List String)
    (provider : String) : Except Erro (List (List fl.F)) :=
  if textos = [] then .ok []
  else if provider = providerHashLocal then .ok (textos.map (embeddingLocal cfg fl))
  else
    match amb.gateway provider textos with
    | none => .error .provider
    | some vetores => if vetores.length ≠ textos.length then .error .provider else .ok vetores

/-- `_embeddings_lote_com_fallback`. -/
def embeddingsLoteComFallback (cfg : Config) (fl : Flutuante) (amb : Ambiente fl)
    (textos : List String) : Except Erro (List (List fl.F) × String) :=
  let provider := resolverProviderEmbeddingAtivo cfg amb.settings
  match embeddingsLote cfg fl amb textos provider with
  | .ok vetores => .ok (vetores, provider)
  | .error x =>
    if provider = providerHashLocal then .error x
    else
      match embeddingsLote cfg fl amb textos providerHashLocal with
      | .ok vetores => .ok (vetores, providerHashLocal)
      | .error x => .error x

/-! ## The table -/

/-- A row of `rag_chunk_embeddings`. -/
structure RagChunkEmbedding (fl : Flutuante) where
  chunkId : String
  documentoId : String
  titulo : String
  origem : String
  conteudo : String
  indice : ℕ
  versao : String
  embedding : List fl.F
  embeddingProvider : String

/-- The table, and the text that was indexed last under each id. -/
structure Banco (fl : Flutuante) where
  chunks : List (RagChunkEmbedding fl) := []
  indexado : String → Option String := fun _ ↦ none

/-- The texts of the documents are the last ones under their ids. -/
def indexa (documentos : List DocumentoRAG) (indexado : String → Option String) :
    String → Option String :=
  documentos.foldl (fun f d ↦ Function.update f d.id (some d.texto)) indexado

/-- What is stored of a chunk: new values in the row that has it, or a new row. -/
def grava {fl : Flutuante} (existentes : List String) (provider : String)
    (chunks : List (RagChunkEmbedding fl)) (x : ChunkRAG × List fl.F) :
    List (RagChunkEmbedding fl) :=
  if x.1.id ∈ existentes then
    chunks.map fun item ↦ if item.chunkId = x.1.id then
      { item with
        titulo := x.1.titulo
        origem := x.1.origem
        conteudo := x.1.conteudo
        versao := x.1.versao
        embedding := x.2
        embeddingProvider := provider }
    else item
  else
    chunks ++ [{
      chunkId := x.1.id
      documentoId := x.1.documentoId
      titulo := x.1.titulo
      origem := x.1.origem
      conteudo := x.1.conteudo
      indice := x.1.indice
      versao := x.1.versao
      embedding := x.2
      embeddingProvider := provider }]

/-- A call of `indexar_chunks_persistentes`. -/
structure Indexacao (fl : Flutuante) where
  documentos : List DocumentoRAG
  tamanho : ℤ := 900
  sobreposicao : ℤ := 120
  ambiente : Ambiente fl := {}

/-- `indexar_chunks_persistentes`. -/
def indexarChunksPersistentes (cfg : Config) {fl : Flutuante} (x : Indexacao fl) (b : Banco fl) :
    Except Erro (Banco fl × ℕ) := do
  let chunks ← criarChunks cfg x.documentos x.tamanho x.sobreposicao
  require (x.ambiente.falha = false) .externo
  let indexado := indexa x.documentos b.indexado
  if chunks = [] then return ({ b with indexado }, 0)
  else do
    let (vetores, provider) ← embeddingsLoteComFallback cfg fl x.ambiente
      (chunks.map fun chunk ↦ chunk.titulo ++ " " ++ chunk.conteudo)
    let existentes := (b.chunks.filter
      (·.documentoId ∈ chunks.map ChunkRAG.documentoId)).map RagChunkEmbedding.chunkId
    let gravados := (chunks.zip vetores).foldl (grava existentes provider) b.chunks
    require (gravados.map RagChunkEmbedding.chunkId).Nodup .integridade
    return ({ chunks := gravados, indexado }, (chunks.zip vetores).length)

/-- A call that raises is rolled back. -/
def exec (cfg : Config) {fl : Flutuante} (x : Indexacao fl) (b : Banco fl) :
    Banco fl × Except Erro ℕ :=
  match indexarChunksPersistentes cfg x b with
  | .ok (b', n) => (b', .ok n)
  | .error e => (b, .error e)

/-- Indexing calls one after the other, on a table that is empty first. -/
def indexacoes (cfg : Config) (fl : Flutuante) :
    TransitionSystem (Banco fl) (Indexacao fl × Except Erro ℕ) :=
  .ofExec {} (exec cfg)

/-! ## Retrieval -/

structure FonteRAG (fl : Flutuante) where
  id : String
  titulo : String
  origem : String
  score : fl.F
  trecho : String

/-- The sources of the rows that have a positive score. -/
def pontua {fl : Flutuante} (consulta : List fl.F) :
    List (RagChunkEmbedding fl) → Except Erro (List (FonteRAG fl))
  | [] => .ok []
  | item :: resto => do
    let score ← cosseno fl consulta item.embedding
    let fontes ← pontua consulta resto
    if fl.naoPositivo score then return fontes
    else
      return {
        id := item.chunkId
        titulo := item.titulo
        origem := item.origem
        score := fl.arredonda score
        trecho := take 520 item.conteudo } :: fontes

/-- `fontes[:n]`. -/
def fatia {α : Type} (n : ℤ) (fontes : List α) : List α :=
  if 0 ≤ n then fontes.take n.toNat else fontes.take (fontes.length - n.natAbs)

/-- `recuperar_fontes_semanticas_persistidas`, on the rows in the order in which the database gives
them. -/
def recuperarFontesSemanticasPersistidas (cfg : Config) {fl : Flutuante} (amb : Ambiente fl)
    (pergunta : String) (topK : ℤ) (linhas : List (RagChunkEmbedding fl)) :
    Except Erro (List (FonteRAG fl)) := do
  let (vetores, providerUsado) ← embeddingsLoteComFallback cfg fl amb [pergunta]
  let resultados ← pontua (vetores.headD []) (linhas.filter (·.embeddingProvider = providerUsado))
  return fatia topK (resultados.insertionSort fun f g ↦ fl.menor f.score g.score = false)

variable {cfg : Config} {fl : Flutuante} {b : Banco fl} {x : Indexacao fl}

/-! ## Rows of the current text -/

/-- The row has a chunk of the text that was indexed last under the id of its document. -/
def Vigente (cfg : Config) (indexado : String → Option String) (item : RagChunkEmbedding fl) :
    Prop :=
  ∃ texto, indexado item.documentoId = some texto ∧
    DoTexto cfg texto item.documentoId item.chunkId item.conteudo

/-- **The condition.** Under one id a call has one text, apart from blank ones before it, and the
rows of its documents have chunks of the text that the call indexes last under the id. -/
def Mantem (cfg : Config) (b : Banco fl) (x : Indexacao fl) : Prop :=
  x.ambiente.falha = false → Valido x.tamanho x.sobreposicao →
    (∀ d ∈ x.documentos, d.texto = "" ∨ indexa x.documentos b.indexado d.id = some d.texto) ∧
    ∀ item ∈ b.chunks, item.documentoId ∈ x.documentos.map DocumentoRAG.id →
      Vigente cfg (indexa x.documentos b.indexado) item

theorem indexa_of_notMem {documentos : List DocumentoRAG} {indexado : String → Option String}
    {id : String} (h : id ∉ documentos.map DocumentoRAG.id) :
    indexa documentos indexado id = indexado id := by
  induction documentos generalizing indexado with
  | nil => rfl
  | cons d documentos ih =>
    rw [List.map_cons, List.mem_cons, not_or] at h
    exact (ih h.2).trans (Function.update_of_ne h.1 _ _)

/-- The documents under an id have one text, or there are none and it was indexed before. -/
theorem indexa_of_forall {documentos : List DocumentoRAG} {indexado : String → Option String}
    {id texto : String} (hdocs : ∀ d ∈ documentos, d.id = id → d.texto = texto)
    (h : indexado id = some texto ∨ id ∈ documentos.map DocumentoRAG.id) :
    indexa documentos indexado id = some texto := by
  induction documentos generalizing indexado with
  | nil => exact h.resolve_right List.not_mem_nil
  | cons d documentos ih =>
    refine ih (fun d' hd' ↦ hdocs d' (List.mem_cons_of_mem _ hd')) ?_
    by_cases hid : id = d.id
    · left
      rw [hid, ← hdocs d List.mem_cons_self hid.symm]
      exact Function.update_self ..
    · refine h.imp (Function.update_of_ne hid _ _).trans fun hmem ↦ ?_
      exact (List.mem_cons.mp hmem).resolve_left hid

/-- To index a text again meets the condition, with whatever sizes, title and provider. -/
theorem mantem_of_texto_eq (h : ∀ item ∈ b.chunks, Vigente cfg b.indexado item)
    (hchamada : ∀ d ∈ x.documentos, ∀ d' ∈ x.documentos, d'.id = d.id → d'.texto = d.texto)
    (hantes : ∀ d ∈ x.documentos, ∀ texto, b.indexado d.id = some texto → texto = d.texto) :
    Mantem cfg b x := by
  have hdepois : ∀ d ∈ x.documentos, indexa x.documentos b.indexado d.id = some d.texto :=
    fun d hd ↦ indexa_of_forall (hchamada d hd) (.inr (List.mem_map_of_mem hd))
  refine fun _ _ ↦ ⟨fun d hd ↦ .inr (hdepois d hd), fun item hitem hdoc ↦ ?_⟩
  obtain ⟨d, hd, hid⟩ := List.mem_map.mp hdoc
  obtain ⟨texto, hindexado, hdoTexto⟩ := h item hitem
  refine ⟨texto, ?_, hdoTexto⟩
  rw [← hid] at hindexado ⊢
  rw [hdepois d hd, hantes d hd texto hindexado]

/-- What holds of the rows before, of every new row and of every row with new values holds of the
rows after. -/
theorem of_mem_foldl_grava {P : RagChunkEmbedding fl → Prop} {existentes : List String}
    {provider : String} {gravar : List (ChunkRAG × List fl.F)}
    {chunks : List (RagChunkEmbedding fl)} (hchunks : ∀ item ∈ chunks, P item)
    (hgrava : ∀ x ∈ gravar, ∀ chunks, (∀ item ∈ chunks, P item) →
      ∀ item ∈ grava existentes provider chunks x, P item) :
    ∀ item ∈ gravar.foldl (grava existentes provider) chunks, P item := by
  induction gravar generalizing chunks with
  | nil => exact hchunks
  | cons x gravar ih =>
    exact ih (hgrava x List.mem_cons_self chunks hchunks)
      fun y hy ↦ hgrava y (List.mem_cons_of_mem _ hy)

/-- A chunk of the current text is stored in a row of its document. -/
theorem vigente_grava {indexado : String → Option String} {existentes : List String}
    {provider : String} {c : ChunkRAG} {vetor : List fl.F} {texto : String}
    (hindexado : indexado c.documentoId = some texto)
    (hc : DoTexto cfg texto c.documentoId c.id c.conteudo)
    {chunks : List (RagChunkEmbedding fl)} (h : ∀ item ∈ chunks, Vigente cfg indexado item) :
    ∀ item ∈ grava existentes provider chunks (c, vetor), Vigente cfg indexado item := by
  intro item hitem
  rw [grava] at hitem
  split at hitem
  · obtain ⟨antes, hantes, rfl⟩ := List.mem_map.mp hitem
    have hvigente := h antes hantes
    split
    next hid =>
      -- the row that has the chunk is one of the same document
      obtain ⟨texto', -, hantes⟩ := hvigente
      have hdoc : antes.documentoId = c.documentoId := by
        obtain ⟨i, hi⟩ := hantes.exists_chunkId
        obtain ⟨j, hj⟩ := hc.exists_chunkId
        exact documentoId_of_chunkId (colon_notMem_versao cfg _) (colon_notMem_versao cfg _)
          (hi.symm.trans (hid.trans hj))
      refine ⟨texto, ?_, ?_⟩
      · exact hdoc ▸ hindexado
      · dsimp only
        rw [hdoc, hid]
        exact hc
    next => exact hvigente
  · obtain hitem | hitem := List.mem_append.mp hitem
    · exact h item hitem
    · cases List.mem_singleton.mp hitem
      exact ⟨texto, hindexado, hc⟩

/-- What a call that returns has done. -/
theorem of_indexar {b' : Banco fl} {n : ℕ} (h : indexarChunksPersistentes cfg x b = .ok (b', n)) :
    x.ambiente.falha = false ∧ b'.indexado = indexa x.documentos b.indexado ∧
    ∃ chunks existentes provider vetores,
      criarChunks cfg x.documentos x.tamanho x.sobreposicao = .ok chunks ∧
      b'.chunks = (chunks.zip vetores).foldl (grava existentes provider) b.chunks := by
  rw [indexarChunksPersistentes] at h
  obtain ⟨chunks, hchunks, h⟩ := bind_eq_ok.mp h
  obtain ⟨hfalha, h⟩ := require_bind_eq_ok.mp h
  dsimp only at h
  split at h
  next hnil =>
    cases h
    exact ⟨hfalha, rfl, chunks, [], "", [], hchunks, by rw [hnil]; rfl⟩
  next =>
    obtain ⟨⟨vetores, provider⟩, -, h⟩ := bind_eq_ok.mp h
    obtain ⟨-, h⟩ := require_bind_eq_ok.mp h
    cases h
    exact ⟨hfalha, rfl, chunks, _, provider, vetores, hchunks, rfl⟩

theorem indexado_exec {n : ℕ} (h : (exec cfg x b).2 = .ok n) :
    (exec cfg x b).1.indexado = indexa x.documentos b.indexado := by
  rw [exec] at h ⊢
  rcases hok : indexarChunksPersistentes cfg x b with e | ⟨b', m⟩
  · rw [hok] at h
    cases h
  · exact (of_indexar hok).2.1

theorem valido_of_criarChunks {documentos : List DocumentoRAG} {tamanho sobreposicao : ℤ}
    {chunks : List ChunkRAG} (h : criarChunks cfg documentos tamanho sobreposicao = .ok chunks) :
    Valido tamanho sobreposicao := by
  rw [criarChunks] at h
  split at h
  next hvalido => exact hvalido
  next => cases h

/-- **A call** that meets the condition leaves rows of the current texts. -/
theorem vigente_exec (h : ∀ item ∈ b.chunks, Vigente cfg b.indexado item) (hx : Mantem cfg b x) :
    ∀ item ∈ (exec cfg x b).1.chunks, Vigente cfg (exec cfg x b).1.indexado item := by
  rw [exec]
  rcases hok : indexarChunksPersistentes cfg x b with e | ⟨b', n⟩
  · exact h
  obtain ⟨hfalha, hindexado, chunks, existentes, provider, vetores, hchunks, hb'⟩ := of_indexar hok
  obtain ⟨htextos, hlinhas⟩ := hx hfalha (valido_of_criarChunks hchunks)
  dsimp only
  rw [hindexado, hb']
  refine of_mem_foldl_grava (fun item hitem ↦ ?_) fun ⟨c, vetor⟩ hc depois hdepois ↦ ?_
  · by_cases hdoc : item.documentoId ∈ x.documentos.map DocumentoRAG.id
    · exact hlinhas item hitem hdoc
    · rw [Vigente, indexa_of_notMem hdoc]
      exact h item hitem
  · obtain ⟨d, hd, hdoc, hne, hdoTexto⟩ :=
      doTexto_of_criarChunks hchunks (List.of_mem_zip hc).1
    have hultimo := (htextos d hd).resolve_left hne
    rw [← hdoc] at hultimo hdoTexto
    exact vigente_grava hultimo hdoTexto hdepois

/-! ## Sources -/

/-- A source of the text that was indexed last under the id of its document. -/
def Atual (cfg : Config) (b : Banco fl) (fonte : FonteRAG fl) : Prop :=
  ∃ documentoId texto conteudo, b.indexado documentoId = some texto ∧
    DoTexto cfg texto documentoId fonte.id conteudo ∧ fonte.trecho = take 520 conteudo

/-- A source is a row. -/
theorem exists_of_mem_pontua {consulta : List fl.F} {linhas : List (RagChunkEmbedding fl)}
    {fontes : List (FonteRAG fl)} (h : pontua consulta linhas = .ok fontes) {fonte : FonteRAG fl}
    (hfonte : fonte ∈ fontes) :
    ∃ item ∈ linhas, fonte.id = item.chunkId ∧ fonte.trecho = take 520 item.conteudo := by
  induction linhas generalizing fontes with
  | nil =>
    cases h
    exact absurd hfonte List.not_mem_nil
  | cons item linhas ih =>
    rw [pontua] at h
    obtain ⟨score, -, h⟩ := bind_eq_ok.mp h
    obtain ⟨resto, hresto, h⟩ := bind_eq_ok.mp h
    have hcauda : fonte ∈ resto → ∃ item' ∈ item :: linhas, fonte.id = item'.chunkId ∧
        fonte.trecho = take 520 item'.conteudo := by
      intro hfonte
      obtain ⟨item', hitem', heq⟩ := ih hresto hfonte
      exact ⟨item', List.mem_cons_of_mem _ hitem', heq⟩
    split at h
    · cases h
      exact hcauda hfonte
    · cases h
      obtain rfl | hfonte := List.mem_cons.mp hfonte
      · exact ⟨item, List.mem_cons_self, rfl, rfl⟩
      · exact hcauda hfonte

theorem mem_of_mem_fatia {α : Type} {n : ℤ} {fontes : List α} {a : α} (h : a ∈ fatia n fontes) :
    a ∈ fontes := by
  rw [fatia] at h
  split at h <;> exact List.mem_of_mem_take h

theorem exists_of_mem_recuperar {amb : Ambiente fl} {pergunta : String} {topK : ℤ}
    {linhas : List (RagChunkEmbedding fl)} {fontes : List (FonteRAG fl)}
    (h : recuperarFontesSemanticasPersistidas cfg amb pergunta topK linhas = .ok fontes)
    {fonte : FonteRAG fl} (hfonte : fonte ∈ fontes) :
    ∃ item ∈ linhas, fonte.id = item.chunkId ∧ fonte.trecho = take 520 item.conteudo := by
  rw [recuperarFontesSemanticasPersistidas] at h
  obtain ⟨⟨vetores, providerUsado⟩, -, h⟩ := bind_eq_ok.mp h
  obtain ⟨resultados, hresultados, h⟩ := bind_eq_ok.mp h
  cases h
  have hfonte := (List.perm_insertionSort _ _).mem_iff.mp (mem_of_mem_fatia hfonte)
  obtain ⟨item, hitem, heq⟩ := exists_of_mem_pontua hresultados hfonte
  exact ⟨item, (List.mem_filter.mp hitem).1, heq⟩

/-- **Current versions only.** While no call replaces a text of which chunks are stored, every
source of every question is a chunk of the text that was indexed last under the id of its
document. -/
theorem sources_current (cfg : Config) (fl : Flutuante) {tr : List (Indexacao fl × Except Erro ℕ)}
    {b : Banco fl} (h : ((indexacoes cfg fl).restrict fun b x ↦ Mantem cfg b x.1).Run tr b)
    (amb : Ambiente fl) (pergunta : String) (topK : ℤ) {linhas : List (RagChunkEmbedding fl)}
    (hlinhas : linhas.Perm b.chunks) {fontes : List (FonteRAG fl)}
    (hfontes : recuperarFontesSemanticasPersistidas cfg amb pergunta topK linhas = .ok fontes) :
    ∀ fonte ∈ fontes, Atual cfg b fonte := by
  have hvigente : ∀ item ∈ b.chunks, Vigente cfg b.indexado item := by
    refine h.invariant (I := fun b ↦ ∀ item ∈ b.chunks, Vigente cfg b.indexado item)
      (fun hinit ↦ ?_) fun {b x b'} hb hstep ↦ ?_
    · rw [hinit]
      exact fun item hitem ↦ absurd hitem List.not_mem_nil
    · obtain ⟨hmantem, hstep⟩ := hstep
      rw [show b' = (exec cfg x.1 b).1 from (congrArg Prod.fst hstep).symm]
      exact vigente_exec hb hmantem
  intro fonte hfonte
  obtain ⟨item, hitem, hid, htrecho⟩ := exists_of_mem_recuperar hfontes hfonte
  obtain ⟨texto, hindexado, hdoTexto⟩ := hvigente item (hlinhas.mem_iff.mp hitem)
  exact ⟨item.documentoId, texto, item.conteudo, hindexado, hid ▸ hdoTexto, htrecho⟩

/-! ## Two small runs -/

/-- Whole numbers, which is what the embeddings of one term with one occurrence are made of. -/
def sampleFlutuante : Flutuante where
  F := ℤ
  zero := 0
  um := 1
  menosUm := -1
  add := (· + ·)
  mul := (· * ·)
  div := (· / ·)
  soma := List.sum
  log _ := 0
  sqrt := id
  isZero := (· == 0)
  naoPositivo := fun score ↦ decide (score ≤ 0)
  menor := fun a b ↦ decide (a < b)
  arredonda := id

/-- The hashes of the two texts of the sample. -/
def sampleConfig : Config where
  sha256 texto :=
    if texto = "antigo" then
      [232, 204, 30, 40, 78, 116, 179, 176, 160, 50, 168, 29, 162, 236, 156, 175, 160, 230, 209,
        243, 94, 135, 99, 108, 132, 133, 177, 151, 80, 252, 139, 216]
    else if texto = "novo" then
      [51, 42, 53, 186, 174, 252, 68, 17, 63, 129, 90, 105, 27, 120, 181, 162, 141, 148, 187, 64,
        116, 255, 129, 126, 51, 1, 56, 195, 189, 76, 245, 226]
    else []
  unicode := .ascii

def sampleIndexacao (conteudo : String) : Indexacao sampleFlutuante where
  documentos := [{ id := "doc", titulo := "T", conteudo }]

/-- The calls, one after the other. -/
def sampleBanco (conteudos : List String) :
    List (Indexacao sampleFlutuante × Except Erro ℕ) × Banco sampleFlutuante :=
  TransitionSystem.runCalls (exec sampleConfig) (conteudos.map sampleIndexacao) {}

/-- The question for the first text. -/
def samplePergunta (b : Banco sampleFlutuante) : Except Erro (List (FonteRAG sampleFlutuante)) :=
  recuperarFontesSemanticasPersistidas sampleConfig {} "antigo" 4 b.chunks

/-- The answer has one source, which is the first text. -/
theorem exists_samplePergunta {b : Banco sampleFlutuante}
    (h : (samplePergunta b).map (·.map FonteRAG.trecho) = .ok ["antigo"]) :
    ∃ fonte, samplePergunta b = .ok [fonte] ∧ fonte.trecho = "antigo" := by
  rcases hfontes : samplePergunta b with x | fontes
  · rw [hfontes] at h
    cases h
  · rw [hfontes] at h
    obtain ⟨fonte, rfl, htrecho⟩ := List.map_eq_singleton_iff.mp (Except.ok.inj h)
    exact ⟨fonte, rfl, htrecho⟩

/-- The text is indexed twice. -/
theorem sources_current_sample : ∃ fonte,
    samplePergunta (sampleBanco ["antigo", "antigo"]).2 = .ok [fonte] ∧ fonte.trecho = "antigo" ∧
    Atual sampleConfig (sampleBanco ["antigo", "antigo"]).2 fonte := by
  have hrun : ((indexacoes sampleConfig sampleFlutuante).restrict
      fun b x ↦ Mantem sampleConfig b x.1).Run (sampleBanco ["antigo", "antigo"]).1
      (sampleBanco ["antigo", "antigo"]).2 := by
    have hvazio : ∀ item ∈ ({} : Banco sampleFlutuante).chunks,
        Vigente sampleConfig (fun _ ↦ none) item := fun item hitem ↦ absurd hitem List.not_mem_nil
    have hprimeira : Mantem sampleConfig {} (sampleIndexacao "antigo") :=
      mantem_of_texto_eq hvazio (by decide) (by rintro d - texto ⟨⟩)
    refine TransitionSystem.run_restrict_runCalls _ ⟨hprimeira, ?_, trivial⟩
    refine mantem_of_texto_eq (vigente_exec hvazio hprimeira) (by decide) fun d hd texto h ↦ ?_
    rw [indexado_exec (n := 1) (by decide +kernel)] at h
    cases List.mem_singleton.mp hd
    exact (Option.some.inj h).symm
  obtain ⟨fonte, hfonte, htrecho⟩ := exists_samplePergunta
    (b := (sampleBanco ["antigo", "antigo"]).2) (by decide +kernel)
  exact ⟨fonte, hfonte, htrecho, sources_current sampleConfig sampleFlutuante hrun {} "antigo" 4
    (List.Perm.refl _) hfonte fonte (List.mem_singleton_self fonte)⟩

/-- The text is replaced, and the answer still cites it. -/
theorem source_superseded : ∃ tr b fonte, (indexacoes sampleConfig sampleFlutuante).Run tr b ∧
    recuperarFontesSemanticasPersistidas sampleConfig {} "antigo" 4 b.chunks = .ok [fonte] ∧
    ¬Atual sampleConfig b fonte := by
  obtain ⟨fonte, hfonte, htrecho⟩ := exists_samplePergunta
    (b := (sampleBanco ["antigo", "novo"]).2) (by decide +kernel)
  refine ⟨_, (sampleBanco ["antigo", "novo"]).2, fonte, TransitionSystem.run_runCalls _ _ _, hfonte,
    ?_⟩
  rintro ⟨documentoId, texto, conteudo, hindexado, hdoTexto, heq⟩
  -- the text that was indexed last is the second one
  have hprimeira : (exec sampleConfig (sampleIndexacao "antigo") {}).1.indexado
      = Function.update (fun _ ↦ none) "doc" (some "antigo") :=
    indexado_exec (n := 1) (by decide +kernel)
  have hsegunda : (sampleBanco ["antigo", "novo"]).2.indexado
      = Function.update (Function.update (fun _ ↦ none) "doc" (some "antigo")) "doc"
        (some "novo") := by
    rw [← hprimeira]
    exact indexado_exec (n := 1) (by decide +kernel)
  have htexto : texto = "novo" := by
    rw [hsegunda, Function.update_idem] at hindexado
    by_cases hid : documentoId = "doc"
    · rw [hid, Function.update_self] at hindexado
      exact (Option.some.inj hindexado).symm
    · rw [Function.update_of_ne hid] at hindexado
      cases hindexado
  rw [htexto] at hdoTexto
  rw [hdoTexto.eq_of_length_le (by decide) (by decide), htrecho] at heq
  exact absurd heq (by decide)

end Rag

end ReqSys
