import Sdsce.Guarantees.AmountTexts
import Sdsce.Guarantees.SessionPricing

/-!
# The cost of usage

Prices are any amounts of 256 bits: `ParsePricingConfig` takes every pair of them. Products and the
sum wrap, so the cost is the price of the usage only as long as that price has 256 bits.
-/
namespace Sdsce.Guarantees.UsageCosts

open Sdsce.Theory Sdsce.Source
open Sdsce.Guarantees.Spending (price)
open Sdsce.Guarantees.SessionPricing (calculateUsageCost_eq_price)

/-! ## Configurations -/

/-- A document with both prices. -/
def document (config : PricingConfig) : List (PriceField × Except (List UInt8) (List UInt8)) :=
  [(.pricePerBlock, .ok (utf8 config.pricePerBlock.string)),
    (.pricePerByte, .ok (utf8 config.pricePerByte.string))]

/-- Every configuration is accepted when its prices are written out. -/
theorem parsePricingConfig_document {yaml : List UInt8 →
      Except (List UInt8) (List (PriceField × Except (List UInt8) (List UInt8)))}
    {data : List UInt8} {config : PricingConfig} (decoded : yaml data = .ok (document config)) :
    parsePricingConfig yaml data = .ok config := by
  have perBlock := AmountTexts.parseGRT_string config.pricePerBlock
  have perByte := AmountTexts.parseGRT_string config.pricePerByte
  simp only [parsePricingConfig, decoded, document, PricingConfig.unmarshalFields,
    GRT.unmarshalYAML, GRT.unmarshalText, perBlock, perByte, PricingConfig.set]

/-! ## Costs -/

theorem calculateUsageCost_eq_price_iff {config : PricingConfig} {blocks bytes : UInt64} :
    (config.calculateUsageCost blocks bytes).bigInt = price config blocks.toNat bytes.toNat ↔
      price config blocks.toNat bytes.toNat < 2 ^ 256 :=
  ⟨fun exact => exact ▸ GRT.bigInt_lt _, calculateUsageCost_eq_price⟩

theorem price_mono {config : PricingConfig} {blocks blocks' bytes bytes' : Nat}
    (moreBlocks : blocks ≤ blocks') (moreBytes : bytes ≤ bytes') :
    price config blocks bytes ≤ price config blocks' bytes' := by
  have perBlock := config.pricePerBlock.bigInt_nonneg
  have perByte := config.pricePerByte.bigInt_nonneg
  unfold price
  gcongr

/-- The cost is the price of the usage, and no less usage costs more, exactly if that price has 256
bits. -/
theorem usage_cost_exact_iff (config : PricingConfig) (blocks bytes : UInt64) :
    ((config.calculateUsageCost blocks bytes).bigInt = price config blocks.toNat bytes.toNat ∧
      ∀ blocks' bytes', blocks' ≤ blocks → bytes' ≤ bytes →
        (config.calculateUsageCost blocks' bytes').bigInt ≤
          (config.calculateUsageCost blocks bytes).bigInt) ↔
    price config blocks.toNat bytes.toNat < 2 ^ 256 := by
  rw [calculateUsageCost_eq_price_iff]
  refine ⟨And.left, fun fits => ⟨fits, fun blocks' bytes' fewer fewer' => ?_⟩⟩
  have cheaper : price config blocks'.toNat bytes'.toNat ≤ price config blocks.toNat bytes.toNat :=
    price_mono (UInt64.le_iff_toNat_le.mp fewer) (UInt64.le_iff_toNat_le.mp fewer')
  rw [calculateUsageCost_eq_price fits, calculateUsageCost_eq_price (lt_of_le_of_lt cheaper fits)]
  exact cheaper

/-- A price of `2^255` base units a block. -/
def steep : PricingConfig := ⟨⟨BitVec.ofNat 256 (2 ^ 255)⟩, .zero⟩

/-- The configuration is accepted, one block costs `2^255`, and two blocks are free. -/
theorem usage_cost_wraps :
    parsePricingConfig (fun _ => .ok (document steep)) [] = .ok steep ∧
      (steep.calculateUsageCost 1 0).bigInt = 2 ^ 255 ∧
      (steep.calculateUsageCost 2 0).bigInt = 0 ∧ price steep 2 0 = 2 ^ 256 := by
  refine ⟨parsePricingConfig_document rfl, ?_, ?_, ?_⟩
  · decide +kernel
  · decide +kernel
  · decide +kernel

end Sdsce.Guarantees.UsageCosts
