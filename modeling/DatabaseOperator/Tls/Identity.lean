import DatabaseOperator.Tls.Certificate
import DatabaseOperator.Tls.PublicKey

/-!
# Who takes part in a connection

A client may show who it is by certificates and the private key of the first
one, and may trust authorities of its own.

- `Identity`: certificates and a key, and `Identity.ofText?`: those of a text.
- `Identity.isUsable`: the key is the one that the first certificate is about.
- `areAuthorities`: a text whose certificates can all be trusted.
-/

namespace DatabaseOperator

/-- What a client shows: certificates, the first of which is its own, and a
private key. -/
structure Identity where
  chain : List (List UInt8)
  key : Pem.Block
deriving DecidableEq, Repr

namespace Identity

/-- A block that belongs to an identity. -/
def isPart (b : Pem.Block) : Bool :=
  [.certificate, .rsaKey, .anyKey, .ecKey].contains b.kind

/-- The identity of blocks: all certificates in order and the last key. There
has to be one of each, and nothing else. -/
def ofBlocks? (blocks : List Pem.Block) : Option Identity := do
  let chain :=
    (blocks.filter fun b => b.kind == .certificate).map Pem.Block.content
  let key ← (blocks.filter fun b => b.kind != .certificate).getLast?
  if blocks.all isPart && !chain.isEmpty then some { chain, key } else none

/-- The identity that a text holds. -/
def ofText? (text : String) : Option Identity :=
  (Pem.blocks? text).bind ofBlocks?

/-- The key is in order, and the first certificate is about it. The others are
not looked at. -/
def isUsable (i : Identity) : Bool :=
  match PublicKey.ofBlock? i.key, i.chain.head?.bind Certificate.publicKey? with
  | some key, some certified => key.encode == certified
  | _, _ => false

end Identity

/-- The certificates of a text can be trusted, if there are any. What else
stands there has only to be well written. -/
def areAuthorities (text : String) : Bool :=
  match Pem.blocks? text with
  | some blocks =>
    blocks.all fun b => b.kind != .certificate || Certificate.isAnchor b.content
  | none => false

/-! ## Small facts -/

theorem Identity.chain_ne_nil {blocks : List Pem.Block} {i : Identity}
    (h : Identity.ofBlocks? blocks = some i) : i.chain ≠ [] := by
  unfold Identity.ofBlocks? at h
  obtain ⟨key, -, h⟩ := Option.bind_eq_some_iff.1 h
  split at h
  · next hc =>
    cases h
    simp only [Bool.and_eq_true, Bool.not_eq_true', List.isEmpty_eq_false_iff]
      at hc
    exact hc.2
  · cases h

end DatabaseOperator
