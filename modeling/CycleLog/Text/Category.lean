import CycleLog.Text.Boundary

/-!
# General categories

Every code point has a general category of two letters: `Lu` for an upper-case letter, `Nd` for a
decimal digit, `Cn` where nothing is assigned. The table gives the categories of version 16 in
code-point order, each with the length of its run.
-/

namespace CycleLog.Text
set_option autoImplicit false

def categoryRuns : List String :=
  ["Cc32Zs1Po3Sc1Po3Ps1Pe1Po1Sm1Po1Pd1Po2Nd10Po2Sm3Po2Lu26Ps1Po1Pe1Sk1Pc1Sk1Ll26Ps1Sm1Pe1Sm1Cc33",
   "Zs1Po1Sc4So1Po1Sk1So1Lo1Pi1Sm1Cf1So1Sk1So1Sm1No2Sk1Ll1Po2Sk1No1Lo1Pf1No3Po1Lu23Sm1Lu7Ll24Sm1",
   "Ll8Lu1Ll1Lu1Ll1Lu1Ll1Lu1Ll1Lu1Ll1Lu1Ll1Lu1Ll1Lu1Ll1Lu1Ll1Lu1Ll1Lu1Ll1Lu1Ll1Lu1Ll1Lu1Ll1Lu1Ll",
   "1Lu1Ll1Lu1Ll1Lu1Ll1Lu1Ll1Lu1Ll1Lu1Ll1Lu1Ll1Lu1Ll1Lu1Ll1Lu1Ll1Lu1Ll1Lu1Ll1Lu1Ll2Lu1Ll1Lu1Ll1L",
   "u1Ll1Lu1Ll1Lu1Ll1Lu1Ll1Lu1Ll1Lu1Ll2Lu1Ll1Lu1Ll1Lu1Ll1Lu1Ll1Lu1Ll1Lu1Ll1Lu1Ll1Lu1Ll1Lu1Ll1Lu1",
   "Ll1Lu1Ll1Lu1Ll1Lu1Ll1Lu1Ll1Lu1Ll1Lu1Ll1Lu1Ll1Lu1Ll1Lu1Ll1Lu1Ll1Lu1Ll1Lu1Ll1Lu1Ll1Lu2Ll1Lu1Ll",
   "1Lu1Ll3Lu2Ll1Lu1Ll1Lu2Ll1Lu3Ll2Lu4Ll1Lu2Ll1Lu3Ll3Lu2Ll1Lu2Ll1Lu1Ll1Lu1Ll1Lu2Ll1Lu1Ll2Lu1Ll1L",
   "u2Ll1Lu3Ll1Lu1Ll1Lu2Ll2Lo1Lu1Ll3Lo4Lu1Lt1Ll1Lu1Lt1Ll1Lu1Lt1Ll1Lu1Ll1Lu1Ll1Lu1Ll1Lu1Ll1Lu1Ll1",
   "Lu1Ll1Lu1Ll1Lu1Ll2Lu1Ll1Lu1Ll1Lu1Ll1Lu1Ll1Lu1Ll1Lu1Ll1Lu1Ll1Lu1Ll1Lu1Ll2Lu1Lt1Ll1Lu1Ll1Lu3Ll",
   "1Lu1Ll1Lu1Ll1Lu1Ll1Lu1Ll1Lu1Ll1Lu1Ll1Lu1Ll1Lu1Ll1Lu1Ll1Lu1Ll1Lu1Ll1Lu1Ll1Lu1Ll1Lu1Ll1Lu1Ll1L",
   "u1Ll1Lu1Ll1Lu1Ll1Lu1Ll1Lu1Ll1Lu1Ll1Lu1Ll1Lu1Ll1Lu1Ll1Lu1Ll1Lu1Ll1Lu1Ll1Lu1Ll1Lu1Ll7Lu2Ll1Lu2",
   "Ll2Lu1Ll1Lu4Ll1Lu1Ll1Lu1Ll1Lu1Ll1Lu1Ll69Lo1Ll27Lm18Sk4Lm12Sk14Lm5Sk7Lm1Sk1Lm1Sk17Mn112Lu1Ll1",
   "Lu1Ll1Lm1Sk1Lu1Ll1Cn2Lm1Ll3Po1Lu1Cn4Sk2Lu1Po1Lu3Cn1Lu1Cn1Lu2Ll1Lu17Cn1Lu9Ll35Lu1Ll2Lu3Ll3Lu1",
   "Ll1Lu1Ll1Lu1Ll1Lu1Ll1Lu1Ll1Lu1Ll1Lu1Ll1Lu1Ll1Lu1Ll1Lu1Ll1Lu1Ll1Lu1Ll5Lu1Ll1Sm1Lu1Ll1Lu2Ll2Lu",
   "51Ll48Lu1Ll1Lu1Ll1Lu1Ll1Lu1Ll1Lu1Ll1Lu1Ll1Lu1Ll1Lu1Ll1Lu1Ll1Lu1Ll1Lu1Ll1Lu1Ll1Lu1Ll1Lu1Ll1Lu",
   "1Ll1Lu1Ll1Lu1Ll1So1Mn5Me2Lu1Ll1Lu1Ll1Lu1Ll1Lu1Ll1Lu1Ll1Lu1Ll1Lu1Ll1Lu1Ll1Lu1Ll1Lu1Ll1Lu1Ll1L",
   "u1Ll1Lu1Ll1Lu1Ll1Lu1Ll1Lu1Ll1Lu1Ll1Lu1Ll1Lu1Ll1Lu1Ll1Lu1Ll1Lu1Ll1Lu1Ll1Lu1Ll1Lu1Ll1Lu1Ll1Lu1",
   "Ll1Lu2Ll1Lu1Ll1Lu1Ll1Lu1Ll1Lu1Ll1Lu1Ll1Lu1Ll2Lu1Ll1Lu1Ll1Lu1Ll1Lu1Ll1Lu1Ll1Lu1Ll1Lu1Ll1Lu1Ll",
   "1Lu1Ll1Lu1Ll1Lu1Ll1Lu1Ll1Lu1Ll1Lu1Ll1Lu1Ll1Lu1Ll1Lu1Ll1Lu1Ll1Lu1Ll1Lu1Ll1Lu1Ll1Lu1Ll1Lu1Ll1L",
   "u1Ll1Lu1Ll1Lu1Ll1Lu1Ll1Lu1Ll1Lu1Ll1Lu1Ll1Lu1Ll1Lu1Ll1Lu1Ll1Lu1Ll1Lu1Ll1Lu1Ll1Lu1Ll1Lu1Ll1Lu1",
   "Ll1Lu1Ll1Lu1Ll1Lu1Ll1Lu1Ll1Lu1Ll1Lu1Ll1Lu1Ll1Lu1Ll1Lu1Ll1Cn1Lu38Cn2Lm1Po6Ll41Po1Pd1Cn2So2Sc1",
   "Cn1Mn45Pd1Mn1Po1Mn2Po1Mn2Po1Mn1Cn8Lo27Cn4Lo4Po2Cn11Cf6Sm3Po2Sc1Po2So2Mn11Po1Cf1Po3Lo32Lm1Lo1",
   "0Mn21Nd10Po4Lo2Mn1Lo99Po1Lo1Mn7Cf1So1Mn6Lm2Mn2So1Mn4Lo2Nd10Lo3So2Lo1Po14Cn1Cf1Lo1Mn1Lo30Mn27",
   "Cn2Lo89Mn11Lo1Cn14Nd10Lo33Mn9Lm2So1Po3Lm1Cn2Mn1Sc2Lo22Mn4Lm1Mn9Lm1Mn3Lm1Mn5Cn2Po15Cn1Lo25Mn3",
   "Cn2Po1Cn1Lo11Cn5Lo24Sk1Lo6Cn1Cf2Cn5Mn9Lo41Lm1Mn24Cf1Mn32Mc1Lo54Mn1Mc1Mn1Lo1Mc3Mn8Mc4Mn1Mc2Lo",
   "1Mn7Lo10Mn2Po2Nd10Po1Lm1Lo15Mn1Mc2Cn1Lo8Cn2Lo2Cn2Lo22Cn1Lo7Cn1Lo1Cn3Lo4Cn2Mn1Lo1Mc3Mn4Cn2Mc2",
   "Cn2Mc2Mn1Lo1Cn8Mc1Cn4Lo2Cn1Lo3Mn2Cn2Nd10Lo2Sc2No6So1Sc1Lo1Po1Mn1Cn2Mn2Mc1Cn1Lo6Cn4Lo2Cn2Lo22",
   "Cn1Lo7Cn1Lo2Cn1Lo2Cn1Lo2Cn2Mn1Cn1Mc3Mn2Cn4Mn2Cn2Mn3Cn3Mn1Cn7Lo4Cn1Lo1Cn7Nd10Mn2Lo3Mn1Po1Cn10",
   "Mn2Mc1Cn1Lo9Cn1Lo3Cn1Lo22Cn1Lo7Cn1Lo2Cn1Lo5Cn2Mn1Lo1Mc3Mn5Cn1Mn2Mc1Cn1Mc2Mn1Cn2Lo1Cn15Lo2Mn2",
   "Cn2Nd10Po1Sc1Cn7Lo1Mn6Cn1Mn1Mc2Cn1Lo8Cn2Lo2Cn2Lo22Cn1Lo7Cn1Lo2Cn1Lo5Cn2Mn1Lo1Mc1Mn1Mc1Mn4Cn2",
   "Mc2Cn2Mc2Mn1Cn7Mn2Mc1Cn4Lo2Cn1Lo3Mn2Cn2Nd10So1Lo1No6Cn10Mn1Lo1Cn1Lo6Cn3Lo3Cn1Lo4Cn3Lo2Cn1Lo1",
   "Cn1Lo2Cn3Lo2Cn3Lo3Cn3Lo12Cn4Mc2Mn1Mc2Cn3Mc3Cn1Mc3Mn1Cn2Lo1Cn6Mc1Cn14Nd10No3So6Sc1So1Cn5Mn1Mc",
   "3Mn1Lo8Cn1Lo3Cn1Lo23Cn1Lo16Cn2Mn1Lo1Mn3Mc4Cn1Mn3Cn1Mn4Cn7Mn2Cn1Lo3Cn2Lo1Cn2Lo2Mn2Cn2Nd10Cn7P",
   "o1No7So1Lo1Mn1Mc2Po1Lo8Cn1Lo3Cn1Lo23Cn1Lo10Cn1Lo5Cn2Mn1Lo1Mc1Mn1Mc5Cn1Mn1Mc2Cn1Mc2Mn2Cn7Mc2C",
   "n6Lo2Cn1Lo2Mn2Cn2Nd10Cn1Lo2Mc1Cn12Mn2Mc2Lo9Cn1Lo3Cn1Lo41Mn2Lo1Mc3Mn4Cn1Mc3Cn1Mc3Mn1Lo1So1Cn4",
   "Lo3Mc1No7Lo3Mn2Cn2Nd10No9So1Lo6Cn1Mn1Mc2Cn1Lo18Cn3Lo24Cn1Lo9Cn1Lo1Cn2Lo7Cn3Mn1Cn4Mc3Mn3Cn1Mn",
   "1Cn1Mc8Cn6Nd10Cn2Mc2Po1Cn12Lo48Mn1Lo2Mn7Cn4Sc1Lo6Lm1Mn8Po1Nd10Po2Cn37Lo2Cn1Lo1Cn1Lo5Cn1Lo24C",
   "n1Lo1Cn1Lo10Mn1Lo2Mn9Lo1Cn2Lo5Cn1Lm1Cn1Mn7Cn1Nd10Cn2Lo4Cn32Lo1So3Po15So1Po1So3Mn2So6Nd10No10",
   "So1Mn1So1Mn1So1Mn1Ps1Pe1Ps1Pe1Mc2Lo8Cn1Lo36Cn4Mn14Mc1Mn5Po1Mn2Lo5Mn11Cn1Mn36Cn1So8Mn1So6Cn1S",
   "o2Po5So4Po2Cn37Lo43Mc2Mn4Mc1Mn6Mc1Mn2Mc2Mn2Lo1Nd10Po6Lo6Mc2Mn2Lo4Mn3Lo1Mc3Lo2Mc7Lo3Mn4Lo13Mn",
   "1Mc2Mn2Mc6Mn1Lo1Mc1Nd10Mc3Mn1So2Lu38Cn1Lu1Cn5Lu1Cn2Ll43Po1Lm1Ll3Lo329Cn1Lo4Cn2Lo7Cn1Lo1Cn1Lo",
   "4Cn2Lo41Cn1Lo4Cn2Lo33Cn1Lo4Cn2Lo7Cn1Lo1Cn1Lo4Cn2Lo15Cn1Lo57Cn1Lo4Cn2Lo67Cn2Mn3Po9No20Cn3Lo16",
   "So10Cn6Lu86Cn2Ll6Cn2Pd1Lo620So1Po1Lo17Zs1Lo26Ps1Pe1Cn3Lo75Po3Nl3Lo8Cn7Lo18Mn3Mc1Cn9Lo19Mn2Mc",
   "1Po2Cn9Lo18Mn2Cn12Lo13Cn1Lo3Cn1Mn2Cn12Lo52Mn2Mc1Mn7Mc8Mn1Mc2Mn11Po3Lm1Po3Sc1Lo1Mn1Cn2Nd10Cn6",
   "No10Cn6Po6Pd1Po4Mn3Cf1Mn1Nd10Cn6Lo35Lm1Lo53Cn7Lo5Mn2Lo34Mn1Lo1Cn5Lo70Cn10Lo31Cn1Mn3Mc4Mn2Mc3",
   "Cn4Mc2Mn1Mc6Mn3Cn4So1Cn3Po2Nd10Lo30Cn2Lo5Cn11Lo44Cn4Lo26Cn6Nd10No1Cn3So34Lo23Mn2Mc2Mn1Cn2Po2",
   "Lo53Mc1Mn1Mc1Mn7Cn1Mn1Mc1Mn1Mc2Mn8Mc6Mn10Cn2Mn1Nd10Cn6Nd10Cn6Po7Lm1Po6Cn2Mn14Me1Mn16Cn49Mn4M",
   "c1Lo47Mn1Mc1Mn5Mc1Mn1Mc5Mn1Mc2Lo8Cn1Po2Nd10Po7So10Mn9So9Po3Mn2Mc1Lo30Mc1Mn4Mc2Mn2Mc1Mn3Lo2Nd",
   "10Lo44Mn1Mc1Mn2Mc3Mn1Mc1Mn3Mc2Cn8Po4Lo36Mc8Mn8Mc2Mn2Cn3Po5Nd10Cn3Lo3Nd10Lo30Lm6Po2Ll9Lu1Ll1C",
   "n5Lu43Cn2Lu3Po8Cn8Mn3Po1Mn13Mc1Mn7Lo4Mn1Lo6Mn1Lo2Mc1Mn2Lo1Cn5Ll44Lm63Ll13Lm1Ll34Lm37Mn64Lu1L",
   "l1Lu1Ll1Lu1Ll1Lu1Ll1Lu1Ll1Lu1Ll1Lu1Ll1Lu1Ll1Lu1Ll1Lu1Ll1Lu1Ll1Lu1Ll1Lu1Ll1Lu1Ll1Lu1Ll1Lu1Ll1",
   "Lu1Ll1Lu1Ll1Lu1Ll1Lu1Ll1Lu1Ll1Lu1Ll1Lu1Ll1Lu1Ll1Lu1Ll1Lu1Ll1Lu1Ll1Lu1Ll1Lu1Ll1Lu1Ll1Lu1Ll1Lu",
   "1Ll1Lu1Ll1Lu1Ll1Lu1Ll1Lu1Ll1Lu1Ll1Lu1Ll1Lu1Ll1Lu1Ll1Lu1Ll1Lu1Ll1Lu1Ll1Lu1Ll1Lu1Ll1Lu1Ll1Lu1L",
   "l1Lu1Ll1Lu1Ll1Lu1Ll1Lu1Ll1Lu1Ll1Lu1Ll1Lu1Ll1Lu1Ll1Lu1Ll1Lu1Ll1Lu1Ll1Lu1Ll1Lu1Ll1Lu1Ll1Lu1Ll1",
   "Lu1Ll1Lu1Ll1Lu1Ll1Lu1Ll1Lu1Ll1Lu1Ll1Lu1Ll1Lu1Ll1Lu1Ll1Lu1Ll1Lu1Ll1Lu1Ll1Lu1Ll9Lu1Ll1Lu1Ll1Lu",
   "1Ll1Lu1Ll1Lu1Ll1Lu1Ll1Lu1Ll1Lu1Ll1Lu1Ll1Lu1Ll1Lu1Ll1Lu1Ll1Lu1Ll1Lu1Ll1Lu1Ll1Lu1Ll1Lu1Ll1Lu1L",
   "l1Lu1Ll1Lu1Ll1Lu1Ll1Lu1Ll1Lu1Ll1Lu1Ll1Lu1Ll1Lu1Ll1Lu1Ll1Lu1Ll1Lu1Ll1Lu1Ll1Lu1Ll1Lu1Ll1Lu1Ll1",
   "Lu1Ll1Lu1Ll1Lu1Ll1Lu1Ll1Lu1Ll1Lu1Ll1Lu1Ll1Lu1Ll1Lu1Ll1Lu1Ll1Lu1Ll1Lu1Ll1Lu1Ll1Lu1Ll1Lu1Ll1Lu",
   "1Ll9Lu8Ll6Cn2Lu6Cn2Ll8Lu8Ll8Lu8Ll6Cn2Lu6Cn2Ll8Cn1Lu1Cn1Lu1Cn1Lu1Cn1Lu1Ll8Lu8Ll14Cn2Ll8Lt8Ll8",
   "Lt8Ll8Lt8Ll5Cn1Ll2Lu4Lt1Sk1Ll1Sk3Ll3Cn1Ll2Lu4Lt1Sk3Ll4Cn2Ll2Lu4Cn1Sk3Ll8Lu5Sk3Cn2Ll3Cn1Ll2Lu",
   "4Lt1Sk2Cn1Zs11Cf5Pd6Po2Pi1Pf1Ps1Pi2Pf1Ps1Pi1Po8Zl1Zp1Cf5Zs1Po9Pi1Pf1Po4Pc2Po3Sm1Ps1Pe1Po11Sm",
   "1Po1Pc1Po10Zs1Cf5Cn1Cf10No1Lm1Cn2No6Sm3Ps1Pe1Lm1No10Sm3Ps1Pe1Cn1Lm13Cn3Sc33Cn15Mn13Me4Mn1Me3",
   "Mn12Cn15So2Lu1So4Lu1So2Ll1Lu3Ll2Lu3Ll1So1Lu1So2Sm1Lu5So6Lu1So1Lu1So1Lu1So1Lu4So1Ll1Lu4Ll1Lo4",
   "Ll1So2Ll2Lu2Sm5Lu1Ll4So1Sm1So2Ll1So1No16Nl35Lu1Ll1Nl4No1So2Cn4Sm5So5Sm2So4Sm1So2Sm1So2Sm1So7",
   "Sm1So31Sm2So2Sm1So1Sm1So31Sm268So8Ps1Pe1Ps1Pe1So20Sm2So7Ps1Pe1So81Sm1So30Sm25So40Sm6So72Cn22",
   "So11Cn21No60So78No22So183Sm1So9Sm1So54Sm8So111Sm1So248Ps1Pe1Ps1Pe1Ps1Pe1Ps1Pe1Ps1Pe1Ps1Pe1Ps",
   "1Pe1No30So44Sm5Ps1Pe1Sm31Ps1Pe1Ps1Pe1Ps1Pe1Ps1Pe1Ps1Pe1Sm16So256Sm131Ps1Pe1Ps1Pe1Ps1Pe1Ps1Pe",
   "1Ps1Pe1Ps1Pe1Ps1Pe1Ps1Pe1Ps1Pe1Ps1Pe1Ps1Pe1Sm63Ps1Pe1Ps1Pe1Sm32Ps1Pe1Sm258So48Sm21So2Sm6So39",
   "Cn2So32Cn1So105Lu48Ll48Lu1Ll1Lu3Ll2Lu1Ll1Lu1Ll1Lu1Ll1Lu4Ll1Lu1Ll2Lu1Ll6Lm2Lu3Ll1Lu1Ll1Lu1Ll1",
   "Lu1Ll1Lu1Ll1Lu1Ll1Lu1Ll1Lu1Ll1Lu1Ll1Lu1Ll1Lu1Ll1Lu1Ll1Lu1Ll1Lu1Ll1Lu1Ll1Lu1Ll1Lu1Ll1Lu1Ll1Lu",
   "1Ll1Lu1Ll1Lu1Ll1Lu1Ll1Lu1Ll1Lu1Ll1Lu1Ll1Lu1Ll1Lu1Ll1Lu1Ll1Lu1Ll1Lu1Ll1Lu1Ll1Lu1Ll1Lu1Ll1Lu1L",
   "l1Lu1Ll1Lu1Ll1Lu1Ll1Lu1Ll1Lu1Ll1Lu1Ll1Lu1Ll1Lu1Ll1Lu1Ll1Lu1Ll1Lu1Ll1Lu1Ll1Lu1Ll1Lu1Ll1Lu1Ll1",
   "Lu1Ll2So6Lu1Ll1Lu1Ll1Mn3Lu1Ll1Cn5Po4No1Po2Ll38Cn1Ll1Cn5Ll1Cn2Lo56Cn7Lm1Po1Cn14Mn1Lo23Cn9Lo7C",
   "n1Lo7Cn1Lo7Cn1Lo7Cn1Lo7Cn1Lo7Cn1Lo7Cn1Lo7Cn1Mn32Po2Pi1Pf1Pi1Pf1Po3Pi1Pf1Po1Pi1Pf1Po9Pd1Po2Pd",
   "1Po1Pi1Pf1Po2Pi1Pf1Ps1Pe1Ps1Pe1Ps1Pe1Ps1Pe1Po5Lm1Po10Pd2Po4Pd1Po1Ps1Po13So2Po3Ps1Pe1Ps1Pe1Ps",
   "1Pe1Ps1Pe1Pd1Cn34So26Cn1So89Cn12So214Cn26So16Zs1Po3So1Lm1Lo1Nl1Ps1Pe1Ps1Pe1Ps1Pe1Ps1Pe1Ps1Pe",
   "1So2Ps1Pe1Ps1Pe1Ps1Pe1Ps1Pe1Pd1Ps1Pe2So1Nl9Mn4Mc2Pd1Lm5So2Nl3Lm1Lo1Po1So2Cn1Lo86Cn2Mn2Sk2Lm2",
   "Lo1Pd1Lo90Po1Lm3Lo1Cn5Lo43Cn1Lo94Cn1So2No4So10Lo32So38Cn9So1Lo16So31Cn1No10So30No8So1No15So3",
   "2No10So39No15So320Lo6592So64Lo21013Lm1Lo1143Cn3So55Cn9Lo40Lm6Po2Lo268Lm1Po3Lo16Nd10Lo2Cn20Lu",
   "1Ll1Lu1Ll1Lu1Ll1Lu1Ll1Lu1Ll1Lu1Ll1Lu1Ll1Lu1Ll1Lu1Ll1Lu1Ll1Lu1Ll1Lu1Ll1Lu1Ll1Lu1Ll1Lu1Ll1Lu1L",
   "l1Lu1Ll1Lu1Ll1Lu1Ll1Lu1Ll1Lu1Ll1Lu1Ll1Lu1Ll1Lo1Mn1Me3Po1Mn10Po1Lm1Lu1Ll1Lu1Ll1Lu1Ll1Lu1Ll1Lu",
   "1Ll1Lu1Ll1Lu1Ll1Lu1Ll1Lu1Ll1Lu1Ll1Lu1Ll1Lu1Ll1Lu1Ll1Lu1Ll1Lm2Mn2Lo70Nl10Mn2Po6Cn8Sk23Lm9Sk2L",
   "u1Ll1Lu1Ll1Lu1Ll1Lu1Ll1Lu1Ll1Lu1Ll1Lu1Ll3Lu1Ll1Lu1Ll1Lu1Ll1Lu1Ll1Lu1Ll1Lu1Ll1Lu1Ll1Lu1Ll1Lu1",
   "Ll1Lu1Ll1Lu1Ll1Lu1Ll1Lu1Ll1Lu1Ll1Lu1Ll1Lu1Ll1Lu1Ll1Lu1Ll1Lu1Ll1Lu1Ll1Lu1Ll1Lu1Ll1Lu1Ll1Lu1Ll",
   "1Lu1Ll1Lu1Ll1Lu1Ll1Lu1Ll1Lu1Ll1Lu1Ll1Lu1Ll1Lm1Ll8Lu1Ll1Lu1Ll1Lu2Ll1Lu1Ll1Lu1Ll1Lu1Ll1Lu1Ll1L",
   "m1Sk2Lu1Ll1Lu1Ll1Lo1Lu1Ll1Lu1Ll3Lu1Ll1Lu1Ll1Lu1Ll1Lu1Ll1Lu1Ll1Lu1Ll1Lu1Ll1Lu1Ll1Lu1Ll1Lu1Ll1",
   "Lu5Ll1Lu5Ll1Lu1Ll1Lu1Ll1Lu1Ll1Lu1Ll1Lu1Ll1Lu1Ll1Lu1Ll1Lu4Ll1Lu1Ll1Lu2Ll1Cn2Lu1Ll1Cn1Ll1Cn1Ll",
   "1Lu1Ll1Lu1Ll1Lu1Ll1Lu1Cn21Lm3Lu1Ll1Lo1Lm2Ll1Lo7Mn1Lo3Mn1Lo4Mn1Lo23Mc2Mn2Mc1So4Mn1Cn3No6So2Sc",
   "1So1Cn6Lo52Po4Cn8Mc2Lo50Mc16Mn2Cn8Po2Nd10Cn6Mn18Lo6Po3Lo1Po1Lo2Mn1Nd10Lo28Mn8Po2Lo23Mn11Mc2C",
   "n11Po1Lo29Cn3Mn3Mc1Lo47Mn1Mc2Mn4Mc2Mn2Mc3Po13Cn1Lm1Nd10Cn4Po2Lo5Mn1Lm1Lo9Nd10Lo5Cn1Lo41Mn6Mc",
   "2Mn2Mc2Mn2Cn9Lo3Mn1Lo8Mn1Mc1Cn2Nd10Cn2Po4Lo16Lm1Lo6So3Lo1Mc1Mn1Mc1Lo50Mn1Lo1Mn3Lo2Mn2Lo5Mn2L",
   "o1Mn1Lo1Cn24Lo2Lm1Po2Lo11Mc1Mn2Mc2Po2Lo1Lm2Mc1Mn1Cn10Lo6Cn2Lo6Cn2Lo6Cn9Lo7Cn1Lo7Cn1Ll43Sk1Lm",
   "4Ll9Lm1Sk2Cn4Ll80Lo35Mc2Mn1Mc2Mn1Mc2Po1Mc1Mn1Cn2Nd10Cn6Lo11172Cn12Lo23Cn4Lo49Cn4Cs2048Co6400",
   "Lo366Cn2Lo106Cn38Ll7Cn12Ll5Cn5Lo1Mn1Lo10Sm1Lo13Cn1Lo5Cn1Lo1Cn1Lo2Cn1Lo2Cn1Lo108Sk17Cn16Lo363",
   "Pe1Ps1So16Lo64Cn2Lo54Cn7So1Cn32Lo12Sc1So3Mn16Po7Ps1Pe1Po1Cn6Mn16Po1Pd2Pc2Ps1Pe1Ps1Pe1Ps1Pe1P",
   "s1Pe1Ps1Pe1Ps1Pe1Ps1Pe1Ps1Pe1Po2Ps1Pe1Po4Pc3Po3Cn1Po4Pd1Ps1Pe1Ps1Pe1Ps1Pe1Po3Sm1Pd1Sm3Cn1Po1",
   "Sc1Po2Cn4Lo5Cn1Lo135Cn2Cf1Cn1Po3Sc1Po3Ps1Pe1Po1Sm1Po1Pd1Po2Nd10Po2Sm3Po2Lu26Ps1Po1Pe1Sk1Pc1S",
   "k1Ll26Ps1Sm1Pe1Sm1Ps1Pe1Po1Ps1Pe1Po2Lo10Lm1Lo45Lm2Lo31Cn3Lo6Cn2Lo6Cn2Lo6Cn2Lo3Cn3Sc2Sm1Sk1So",
   "1Sc2Cn1So1Sm4So2Cn10Cf3So2Cn2Lo12Cn1Lo26Cn1Lo19Cn1Lo2Cn1Lo15Cn2Lo14Cn34Lo123Cn5Po3Cn4No45Cn3",
   "So9Nl53No4So17No2So3Cn1So13Cn3So1Cn47So45Mn1Cn130Lo29Cn3Lo49Cn15Mn1No27Cn4Lo32No4Cn9Lo20Nl1L",
   "o8Nl1Cn5Lo38Mn5Cn5Lo30Cn1Po1Lo36Cn4Lo8Po1Nl5Cn42Lu40Ll40Lo78Cn2Nd10Cn6Lu36Cn4Ll36Cn4Lo40Cn8L",
   "o52Cn11Po1Lu11Cn1Lu15Cn1Lu7Cn1Lu2Cn1Ll11Cn1Ll15Cn1Ll7Cn1Ll2Cn3Lo52Cn12Lo311Cn9Lo22Cn10Lo8Cn2",
   "4Lm6Cn1Lm42Cn1Lm9Cn69Lo6Cn2Lo1Cn1Lo44Cn1Lo2Cn3Lo1Cn2Lo23Cn1Po1No8Lo23So2No7Lo31Cn8No9Cn48Lo1",
   "9Cn1Lo2Cn5No5Lo22No6Cn3Po1Lo26Cn5Po1Cn64Lo56Cn4No2Lo2No16Cn2No46Lo1Mn3Cn1Mn2Cn5Mn4Lo4Cn1Lo3C",
   "n1Lo29Cn2Mn3Cn4Mn1No9Cn7Po9Cn7Lo29No2Po1Lo29No3Cn32Lo8So1Lo28Mn2Cn4No5Po7Cn9Lo54Cn3Po7Lo22Cn",
   "2No8Lo19Cn5No8Lo18Cn7Po4Cn12No7Cn80Lo73Cn55Lu51Cn13Ll51Cn7No6Lo36Mn4Cn8Nd10Cn6Nd10Lo4Lm1Lo1L",
   "u22Cn3Mn5Pd1Lm1Ll22Cn8Sm2Cn208No31Cn1Lo42Cn1Mn2Pd1Cn2Lo2Cn16Lo3Cn55Mn4Lo29No10Lo1Cn8Lo22Mn11",
   "No4Po5Cn22Lo18Mn4Po4Cn38Lo21No7Cn20Lo23Cn9Mc1Mn1Mc1Lo53Mn15Po7Cn4No20Nd10Mn1Lo2Mn2Lo1Cn9Mn3M",
   "c1Lo45Mc3Mn4Mc2Mn2Po2Cf1Po4Mn1Cn10Cf1Cn2Lo25Cn7Nd10Cn6Mn3Lo36Mn5Mc1Mn8Cn1Nd10Po4Lo1Mc2Lo1Cn8",
   "Lo35Mn1Po2Lo1Cn9Mn2Mc1Lo48Mc3Mn9Mc2Lo4Po4Mn4Po1Mc1Mn1Nd10Lo1Po1Lo1Po3Cn1No20Cn11Lo18Cn1Lo25M",
   "c3Mn3Mc2Mn1Mc1Mn2Po6Mn1Lo2Mn1Cn62Lo7Cn1Lo1Cn1Lo4Cn1Lo15Cn1Lo10Po1Cn6Lo47Mn1Mc3Mn8Cn5Nd10Cn6M",
   "n2Mc2Cn1Lo8Cn2Lo2Cn2Lo22Cn1Lo7Cn1Lo2Cn1Lo5Cn1Mn2Lo1Mc2Mn1Mc4Cn2Mc2Cn2Mc3Cn2Lo1Cn6Mc1Cn5Lo5Mc",
   "2Cn2Mn7Cn3Mn5Cn11Lo10Cn1Lo1Cn2Lo1Cn1Lo38Cn1Lo1Mc3Mn6Cn1Mc1Cn2Mc1Cn1Mc4Cn1Mc2Mn1Mc1Mn1Lo1Mn1L",
   "o1Po2Cn1Po2Cn8Mn2Cn29Lo53Mc3Mn8Mc2Mn3Mc1Mn1Lo4Po5Nd10Po2Cn1Po1Mn1Lo3Cn30Lo48Mc3Mn6Mc1Mn1Mc4M",
   "n2Mc1Mn2Lo2Po1Lo1Cn8Nd10Cn166Lo47Mc3Mn4Cn2Mc4Mn2Mc1Mn2Po23Lo4Mn2Cn34Lo48Mc3Mn8Mc2Mn1Mc1Mn2Po",
   "3Lo1Cn11Nd10Cn6Po13Cn19Lo43Mn1Mc1Mn1Mc2Mn6Mc1Mn1Lo1Po1Cn6Nd10Cn6Nd20Cn28Lo27Cn2Mn1Mc1Mn1Mc2M",
   "n4Mc1Mn5Cn4Nd10No2Po3So1Lo7Cn185Lo44Mc3Mn9Mc1Mn2Po1Cn100Lu32Ll32Nd10No9Cn12Lo8Cn2Lo1Cn2Lo8Cn",
   "1Lo2Cn1Lo24Mc6Cn1Mc2Cn2Mn2Mc1Mn1Lo1Mc1Lo1Mc1Mn1Po3Cn9Nd10Cn70Lo8Cn2Lo39Mc3Mn4Cn2Mn2Mc4Mn1Lo1",
   "Po1Lo1Mc1Cn27Lo1Mn10Lo40Mn6Mc1Lo1Mn4Po8Mn1Cn8Lo1Mn6Mc2Mn3Lo46Mn13Mc1Mn2Po3Lo1Po5Cn13Lo73Cn7P",
   "o10Cn182Lo33Po1Cn14Nd10Cn6Lo9Cn1Lo37Mc1Mn7Cn1Mn6Mc1Mn1Lo1Po5Cn10Nd10No19Cn3Po2Lo30Cn2Mn22Cn1",
   "Mc1Mn7Mc1Mn2Mc1Mn2Cn73Lo7Cn1Lo2Cn1Lo38Mn6Cn3Mn1Cn1Mn2Cn1Mn7Lo1Mn1Cn8Nd10Cn6Lo6Cn1Lo2Cn1Lo32M",
   "c5Cn1Mn2Cn1Mc2Mn1Mc1Mn1Lo1Cn7Nd10Cn310Lo19Mn2Mc2Po2Cn7Mn2Lo1Mc1Lo13Cn1Lo34Mc2Mn5Cn3Mc2Mn1Mc1",
   "Mn1Po13Nd10Mn1Cn85Lo1Cn15No21So8Sc4So17Cn13Po1Lo922Cn102Nl111Cn1Po5Cn11Lo196Cn2636Lo97Po2Cn1",
   "3Lo1072Cf16Mn1Lo6Mn15Cn10Lo3995Cn5Lo583Cn6841Lo30Mn12Mc3Mn3Nd10Cn1734Lo569Cn7Lo31Cn1Nd10Cn4P",
   "o2Lo79Cn1Nd10Cn6Lo30Cn2Mn5Po1Cn10Lo48Mn7Po5So4Lm4Po1So1Cn10Nd10Cn1No7Cn1Lo21Cn5Lo19Cn432Lm3L",
   "o40Lm2Po3Nd10Cn198Lu32Ll32No23Po4Cn101Lo75Cn4Mn1Lo1Mc55Cn7Mn4Lm13Cn64Lm2Po1Lm1Mn1Cn11Mc2Cn14",
   "Lo6136Cn8Lo1238Cn41Lo10Cn8935Lm4Cn1Lm7Cn1Lm2Cn1Lo291Cn15Lo1Cn29Lo3Cn2Lo1Cn14Lo4Cn8Lo396Cn230",
   "8Lo107Cn5Lo13Cn3Lo9Cn7Lo10Cn2So1Mn2Po1Cf4Cn3932So240Nd10Cn6So436Cn76Mn46Cn2Mn23Cn9So116Cn60S",
   "o246Cn10So39Cn2So60Mc2Mn3So3Mc6Cf8Mn8So2Mn7So30Mn4So61Cn21So66Mn3So1Cn122No20Cn12No20Cn12So8",
   "7Cn9No25Cn135Lu26Ll26Lu26Ll7Cn1Ll18Lu26Ll26Lu1Cn1Lu2Cn2Lu1Cn2Lu2Cn2Lu4Cn1Lu8Ll4Cn1Ll1Cn1Ll7C",
   "n1Ll11Lu26Ll26Lu2Cn1Lu4Cn2Lu8Cn1Lu7Cn1Ll26Lu2Cn1Lu4Cn1Lu5Cn1Lu1Cn3Lu7Cn1Ll26Lu26Ll26Lu26Ll26",
   "Lu26Ll26Lu26Ll26Lu26Ll26Lu26Ll28Cn2Lu25Sm1Ll25Sm1Ll6Lu25Sm1Ll25Sm1Ll6Lu25Sm1Ll25Sm1Ll6Lu25Sm",
   "1Ll25Sm1Ll6Lu25Sm1Ll25Sm1Ll6Lu1Ll1Cn2Nd50So512Mn55So4Mn50So8Mn1So14Mn1So2Po5Cn15Mn5Cn1Mn15Cn",
   "1104Ll10Lo1Ll20Cn6Ll6Cn213Mn7Cn1Mn17Cn2Mn7Cn1Mn2Cn1Mn5Cn5Lm62Cn33Mn1Cn112Lo45Cn3Mn7Lm7Cn2Nd1",
   "0Cn4Lo1So1Cn320Lo30Mn1Cn17Lo44Mn4Nd10Cn5Sc1Cn464Lo27Lm1Mn4Nd10Cn214Lo30Mn2Lo1Nd10Cn4Po1Cn480",
   "Lo7Cn1Lo4Cn1Lo2Cn1Lo15Cn1Lo197Cn2No9Mn7Cn41Lu34Ll34Mn7Lm1Cn4Nd10Cn4Po2Cn785No59So1No3Sc1No4C",
   "n76No45So1No15Cn194Lo4Cn1Lo27Cn1Lo2Cn1Lo1Cn2Lo1Cn1Lo10Cn1Lo4Cn1Lo1Cn1Lo1Cn6Lo1Cn4Lo1Cn1Lo1Cn",
   "1Lo1Cn1Lo3Cn1Lo2Cn1Lo1Cn2Lo1Cn1Lo1Cn1Lo1Cn1Lo1Cn1Lo1Cn1Lo2Cn1Lo1Cn2Lo4Cn1Lo7Cn1Lo4Cn1Lo4Cn1L",
   "o1Cn1Lo10Cn1Lo17Cn5Lo3Cn1Lo5Cn1Lo17Cn52Sm2Cn270So44Cn4So100Cn12So15Cn2So15Cn1So15Cn1So37Cn10",
   "No13So161Cn56So29Cn13So44Cn4So9Cn7So2Cn14So6Cn154So251Sk5So728Cn4So17Cn3So13Cn3So119Cn4So95C",
   "n6So12Cn4So1Cn15So12Cn4So56Cn8So10Cn6So40Cn8So30Cn2So12Cn4So2Cn62So340Cn12So14Cn2So13Cn3So10",
   "Cn5So56Cn7So15Cn2So11Cn6So9Cn7So147Cn1So92Nd10Cn1030Lo42720Cn32Lo4154Cn6Lo222Cn2Lo5762Cn14Lo",
   "7473Cn15Lo622Cn2466Lo542Cn1506Lo4939Cn5Lo4192Cn711761Cf1Cn30Cf96Cn128Mn240Cn65040Co65534Cn2C",
   "o65534Cn2"]

def categoryTable : LabelTable := LabelTable.ofRuns (String.join categoryRuns)

/-- The two-letter general category of a character. -/
def category (c : Char) : String := categoryTable.label c.toNat

/-- A character of category `Nd`. -/
def isDecimalDigit (c : Char) : Bool :=
  if c.toNat < 0x80 then c.isDigit else category c == "Nd"

/-- A character with a visible form of its own: no control or format character, no separator other
than the space, nothing private or unassigned. -/
def isPrintable (c : Char) : Bool :=
  if c.toNat < 0x80 then 0x20 ≤ c.toNat && c.toNat < 0x7F
  else
    let k := category c
    !(k.startsWith "C" || k.startsWith "Z")

end CycleLog.Text
