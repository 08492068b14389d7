import CycleLog.Text.Boundary

/-!
# Scripts

The script of a character, under its four-letter code, the scripts it is used in, and the longer names
that a script goes by.
-/

namespace CycleLog.Text
set_option autoImplicit false

def scriptRuns : List String :=
  ["Zyyy65Latn26Zyyy6Latn26Zyyy47Latn1Zyyy15Latn1Zyyy5Latn23Zyyy1Latn31Zyyy1Latn449Zyyy39Latn5Zy",
   "yy5Bopo2Zyyy20Zinh112Grek4Zyyy1Grek3Zzzz2Grek4Zyyy1Grek1Zzzz4Grek1Zyyy1Grek1Zyyy1Grek3Zzzz1G",
   "rek1Zzzz1Grek20Zzzz1Grek63Copt14Grek16Cyrl133Zinh2Cyrl169Zzzz1Armn38Zzzz2Armn50Zzzz2Armn3Zzz",
   "z1Hebr55Zzzz8Hebr27Zzzz4Hebr6Zzzz11Arab5Zyyy1Arab6Zyyy1Arab14Zyyy1Arab3Zyyy1Arab32Zyyy1Arab1",
   "0Zinh11Arab26Zinh1Arab108Zyyy1Arab34Syrc14Zzzz1Syrc60Zzzz2Syrc3Arab48Thaa50Zzzz14Nkoo59Zzzz2",
   "Nkoo3Samr46Zzzz2Samr15Zzzz1Mand28Zzzz2Mand1Zzzz1Syrc11Zzzz5Arab31Zzzz1Arab2Zzzz5Arab75Zyyy1A",
   "rab29Deva81Zinh4Deva15Zyyy2Deva26Beng4Zzzz1Beng8Zzzz2Beng2Zzzz2Beng22Zzzz1Beng7Zzzz1Beng1Zzz",
   "z3Beng4Zzzz2Beng9Zzzz2Beng2Zzzz2Beng4Zzzz8Beng1Zzzz4Beng2Zzzz1Beng5Zzzz2Beng25Zzzz2Guru3Zzzz",
   "1Guru6Zzzz4Guru2Zzzz2Guru22Zzzz1Guru7Zzzz1Guru2Zzzz1Guru2Zzzz1Guru2Zzzz2Guru1Zzzz1Guru5Zzzz4",
   "Guru2Zzzz2Guru3Zzzz3Guru1Zzzz7Guru4Zzzz1Guru1Zzzz7Guru17Zzzz10Gujr3Zzzz1Gujr9Zzzz1Gujr3Zzzz1",
   "Gujr22Zzzz1Gujr7Zzzz1Gujr2Zzzz1Gujr5Zzzz2Gujr10Zzzz1Gujr3Zzzz1Gujr3Zzzz2Gujr1Zzzz15Gujr4Zzzz",
   "2Gujr12Zzzz7Gujr7Zzzz1Orya3Zzzz1Orya8Zzzz2Orya2Zzzz2Orya22Zzzz1Orya7Zzzz1Orya2Zzzz1Orya5Zzzz",
   "2Orya9Zzzz2Orya2Zzzz2Orya3Zzzz7Orya3Zzzz4Orya2Zzzz1Orya5Zzzz2Orya18Zzzz10Taml2Zzzz1Taml6Zzzz",
   "3Taml3Zzzz1Taml4Zzzz3Taml2Zzzz1Taml1Zzzz1Taml2Zzzz3Taml2Zzzz3Taml3Zzzz3Taml12Zzzz4Taml5Zzzz3",
   "Taml3Zzzz1Taml4Zzzz2Taml1Zzzz6Taml1Zzzz14Taml21Zzzz5Telu13Zzzz1Telu3Zzzz1Telu23Zzzz1Telu16Zz",
   "zz2Telu9Zzzz1Telu3Zzzz1Telu4Zzzz7Telu2Zzzz1Telu3Zzzz2Telu1Zzzz2Telu4Zzzz2Telu10Zzzz7Telu9Knd",
   "a13Zzzz1Knda3Zzzz1Knda23Zzzz1Knda10Zzzz1Knda5Zzzz2Knda9Zzzz1Knda3Zzzz1Knda4Zzzz7Knda2Zzzz6Kn",
   "da2Zzzz1Knda4Zzzz2Knda10Zzzz1Knda3Zzzz12Mlym13Zzzz1Mlym3Zzzz1Mlym51Zzzz1Mlym3Zzzz1Mlym6Zzzz4",
   "Mlym16Zzzz2Mlym26Zzzz1Sinh3Zzzz1Sinh18Zzzz3Sinh24Zzzz1Sinh9Zzzz1Sinh1Zzzz2Sinh7Zzzz3Sinh1Zzz",
   "z4Sinh6Zzzz1Sinh1Zzzz1Sinh8Zzzz6Sinh10Zzzz2Sinh3Zzzz12Thai58Zzzz4Zyyy1Thai28Zzzz37Laoo2Zzzz1",
   "Laoo1Zzzz1Laoo5Zzzz1Laoo24Zzzz1Laoo1Zzzz1Laoo23Zzzz2Laoo5Zzzz1Laoo1Zzzz1Laoo7Zzzz1Laoo10Zzzz",
   "2Laoo4Zzzz32Tibt72Zzzz1Tibt36Zzzz4Tibt39Zzzz1Tibt36Zzzz1Tibt15Zzzz1Tibt7Zyyy4Tibt2Zzzz37Mymr",
   "160Geor38Zzzz1Geor1Zzzz5Geor1Zzzz2Geor43Zyyy1Geor4Hang256Ethi73Zzzz1Ethi4Zzzz2Ethi7Zzzz1Ethi",
   "1Zzzz1Ethi4Zzzz2Ethi41Zzzz1Ethi4Zzzz2Ethi33Zzzz1Ethi4Zzzz2Ethi7Zzzz1Ethi1Zzzz1Ethi4Zzzz2Ethi",
   "15Zzzz1Ethi57Zzzz1Ethi4Zzzz2Ethi67Zzzz2Ethi32Zzzz3Ethi26Zzzz6Cher86Zzzz2Cher6Zzzz2Cans640Oga",
   "m29Zzzz3Runr75Zyyy3Runr11Zzzz7Tglg22Zzzz9Tglg1Hano21Zyyy2Zzzz9Buhd20Zzzz12Tagb13Zzzz1Tagb3Zz",
   "zz1Tagb2Zzzz12Khmr94Zzzz2Khmr10Zzzz6Khmr10Zzzz6Mong2Zyyy2Mong1Zyyy1Mong20Zzzz6Mong89Zzzz7Mon",
   "g43Zzzz5Cans70Zzzz10Limb31Zzzz1Limb12Zzzz4Limb12Zzzz4Limb1Zzzz3Limb12Tale30Zzzz2Tale5Zzzz11T",
   "alu44Zzzz4Talu26Zzzz6Talu11Zzzz3Talu2Khmr32Bugi28Zzzz2Bugi2Lana63Zzzz1Lana29Zzzz2Lana11Zzzz6",
   "Lana10Zzzz6Lana14Zzzz2Zinh31Zzzz49Bali77Zzzz1Bali50Sund64Batk52Zzzz8Batk4Lepc56Zzzz3Lepc15Zz",
   "zz3Lepc3Olck48Cyrl11Zzzz5Geor43Zzzz2Geor3Sund8Zzzz8Zinh3Zyyy1Zinh13Zyyy1Zinh7Zyyy4Zinh1Zyyy6",
   "Zinh1Zyyy3Zinh2Zyyy1Zzzz5Latn38Grek5Cyrl1Latn49Grek5Latn4Grek5Latn13Cyrl1Latn70Grek1Zinh64La",
   "tn256Grek22Zzzz2Grek6Zzzz2Grek38Zzzz2Grek6Zzzz2Grek8Zzzz1Grek1Zzzz1Grek1Zzzz1Grek1Zzzz1Grek3",
   "1Zzzz2Grek53Zzzz1Grek15Zzzz1Grek14Zzzz2Grek6Zzzz1Grek19Zzzz2Grek3Zzzz1Grek9Zzzz1Zyyy12Zinh2Z",
   "yyy87Zzzz1Zyyy11Latn1Zzzz2Zyyy11Latn1Zyyy15Zzzz1Latn13Zzzz3Zyyy33Zzzz15Zinh33Zzzz15Zyyy38Gre",
   "k1Zyyy3Latn2Zyyy6Latn1Zyyy27Latn1Zyyy17Latn41Zyyy3Zzzz4Zyyy666Zzzz22Zyyy11Zzzz21Zyyy928Brai2",
   "56Zyyy628Zzzz2Zyyy32Zzzz1Zyyy105Glag96Latn32Copt116Zzzz5Copt7Geor38Zzzz1Geor1Zzzz5Geor1Zzzz2",
   "Tfng56Zzzz7Tfng2Zzzz14Tfng1Ethi23Zzzz9Ethi7Zzzz1Ethi7Zzzz1Ethi7Zzzz1Ethi7Zzzz1Ethi7Zzzz1Ethi",
   "7Zzzz1Ethi7Zzzz1Ethi7Zzzz1Cyrl32Zyyy94Zzzz34Hani26Zzzz1Hani89Zzzz12Hani214Zzzz26Zyyy21Hani1Z",
   "yyy1Hani1Zyyy25Hani9Zinh4Hang2Zyyy8Hani4Zyyy4Zzzz1Hira86Zzzz2Zinh2Zyyy2Hira3Zyyy1Kana90Zyyy2",
   "Kana3Zzzz5Bopo43Zzzz1Hang94Zzzz1Zyyy16Bopo32Zyyy38Zzzz9Zyyy1Kana16Hang31Zzzz1Zyyy64Hang31Zyy",
   "y81Kana47Zyyy1Kana88Zyyy168Hani6592Zyyy64Hani20992Yiii1165Zzzz3Yiii55Zzzz9Lisu48Vaii300Zzzz2",
   "0Cyrl96Bamu88Zzzz8Zyyy34Latn102Zyyy3Latn67Zzzz2Latn2Zzzz1Latn1Zzzz1Latn8Zzzz21Latn14Sylo45Zz",
   "zz3Zyyy10Zzzz6Phag56Zzzz8Saur70Zzzz8Saur12Zzzz6Deva32Kali46Zyyy1Kali1Rjng36Zzzz11Rjng1Hang29",
   "Zzzz3Java78Zzzz1Zyyy1Java10Zzzz4Java2Mymr31Zzzz1Cham55Zzzz9Cham14Zzzz2Cham10Zzzz2Cham4Mymr32",
   "Tavt67Zzzz24Tavt5Mtei23Zzzz10Ethi6Zzzz2Ethi6Zzzz2Ethi6Zzzz9Ethi7Zzzz1Ethi7Zzzz1Latn43Zyyy1La",
   "tn9Grek1Latn4Zyyy2Zzzz4Cher80Mtei46Zzzz2Mtei10Zzzz6Hang11172Zzzz12Hang23Zzzz4Hang49Zzzz8452H",
   "ani366Zzzz2Hani106Zzzz38Latn7Zzzz12Armn5Zzzz5Hebr26Zzzz1Hebr5Zzzz1Hebr1Zzzz1Hebr2Zzzz1Hebr2Z",
   "zzz1Hebr10Arab115Zzzz16Arab363Zyyy2Arab80Zzzz2Arab54Zzzz7Arab1Zzzz32Arab16Zinh16Zyyy10Zzzz6Z",
   "inh14Cyrl2Zyyy35Zzzz1Zyyy19Zzzz1Zyyy4Zzzz4Arab5Zzzz1Arab135Zzzz2Zyyy1Zzzz1Zyyy32Latn26Zyyy6L",
   "atn26Zyyy11Kana10Zyyy1Kana45Zyyy2Hang31Zzzz3Hang6Zzzz2Hang6Zzzz2Hang6Zzzz2Hang3Zzzz3Zyyy7Zzz",
   "z1Zyyy7Zzzz10Zyyy5Zzzz2Linb12Zzzz1Linb26Zzzz1Linb19Zzzz1Linb2Zzzz1Linb15Zzzz2Linb14Zzzz34Lin",
   "b123Zzzz5Zyyy3Zzzz4Zyyy45Zzzz3Zyyy9Grek79Zzzz1Zyyy13Zzzz3Grek1Zzzz47Zyyy45Zinh1Zzzz130Lyci29",
   "Zzzz3Cari49Zzzz15Zinh1Zyyy27Zzzz4Ital36Zzzz9Ital3Goth27Zzzz5Perm43Zzzz5Ugar30Zzzz1Ugar1Xpeo3",
   "6Zzzz4Xpeo14Zzzz42Dsrt80Shaw48Osma30Zzzz2Osma10Zzzz6Osge36Zzzz4Osge36Zzzz4Elba40Zzzz8Aghb52Z",
   "zzz11Aghb1Vith11Zzzz1Vith15Zzzz1Vith7Zzzz1Vith2Zzzz1Vith11Zzzz1Vith15Zzzz1Vith7Zzzz1Vith2Zzz",
   "z3Todr52Zzzz12Lina311Zzzz9Lina22Zzzz10Lina8Zzzz24Latn6Zzzz1Latn42Zzzz1Latn9Zzzz69Cprt6Zzzz2C",
   "prt1Zzzz1Cprt44Zzzz1Cprt2Zzzz3Cprt1Zzzz2Cprt1Armi22Zzzz1Armi9Palm32Nbat31Zzzz8Nbat9Zzzz48Hat",
   "r19Zzzz1Hatr2Zzzz5Hatr5Phnx28Zzzz3Phnx1Lydi26Zzzz5Lydi1Zzzz64Mero32Merc24Zzzz4Merc20Zzzz2Mer",
   "c46Khar4Zzzz1Khar2Zzzz5Khar8Zzzz1Khar3Zzzz1Khar29Zzzz2Khar3Zzzz4Khar10Zzzz7Khar9Zzzz7Sarb32N",
   "arb32Zzzz32Mani39Zzzz4Mani12Zzzz9Avst54Zzzz3Avst7Prti22Zzzz2Prti8Phli19Zzzz5Phli8Phlp18Zzzz7",
   "Phlp4Zzzz12Phlp7Zzzz80Orkh73Zzzz55Hung51Zzzz13Hung51Zzzz7Hung6Rohg40Zzzz8Rohg10Zzzz6Gara38Zz",
   "zz3Gara29Zzzz8Gara2Zzzz208Arab31Zzzz1Yezi42Zzzz1Yezi3Zzzz2Yezi2Zzzz16Arab3Zzzz55Arab4Sogo40Z",
   "zzz8Sogd42Zzzz22Ougr26Zzzz38Chrs28Zzzz20Elym23Zzzz9Brah78Zzzz4Brah36Zzzz9Brah1Kthi67Zzzz10Kt",
   "hi1Zzzz2Sora25Zzzz7Sora10Zzzz6Cakm53Zzzz1Cakm18Zzzz8Mahj39Zzzz9Shrd96Zzzz1Sinh20Zzzz11Khoj18",
   "Zzzz1Khoj47Zzzz62Mult7Zzzz1Mult1Zzzz1Mult4Zzzz1Mult15Zzzz1Mult11Zzzz6Sind59Zzzz5Sind10Zzzz6G",
   "ran4Zzzz1Gran8Zzzz2Gran2Zzzz2Gran22Zzzz1Gran7Zzzz1Gran2Zzzz1Gran5Zzzz1Zinh1Gran9Zzzz2Gran2Zz",
   "zz2Gran3Zzzz2Gran1Zzzz6Gran1Zzzz5Gran7Zzzz2Gran7Zzzz3Gran5Zzzz11Tutg10Zzzz1Tutg1Zzzz2Tutg1Zz",
   "zz1Tutg38Zzzz1Tutg10Zzzz1Tutg1Zzzz2Tutg1Zzzz1Tutg4Zzzz1Tutg10Zzzz1Tutg2Zzzz8Tutg2Zzzz29Newa9",
   "2Zzzz1Newa5Zzzz30Tirh72Zzzz8Tirh10Zzzz166Sidd54Zzzz2Sidd38Zzzz34Modi69Zzzz11Modi10Zzzz6Mong1",
   "3Zzzz19Takr58Zzzz6Takr10Zzzz6Mymr20Zzzz28Ahom27Zzzz2Ahom15Zzzz4Ahom23Zzzz185Dogr60Zzzz100War",
   "a83Zzzz12Wara1Diak7Zzzz2Diak1Zzzz2Diak8Zzzz1Diak2Zzzz1Diak30Zzzz1Diak2Zzzz2Diak12Zzzz9Diak10",
   "Zzzz70Nand8Zzzz2Nand46Zzzz2Nand11Zzzz27Zanb72Zzzz8Soyo83Zzzz13Cans16Pauc57Zzzz7Deva10Zzzz182",
   "Sunu34Zzzz14Sunu10Zzzz6Bhks9Zzzz1Bhks45Zzzz1Bhks14Zzzz10Bhks29Zzzz3Marc32Zzzz2Marc22Zzzz1Mar",
   "c14Zzzz73Gonm7Zzzz1Gonm2Zzzz1Gonm44Zzzz3Gonm1Zzzz1Gonm2Zzzz1Gonm9Zzzz8Gonm10Zzzz6Gong6Zzzz1G",
   "ong2Zzzz1Gong37Zzzz1Gong2Zzzz1Gong6Zzzz7Gong10Zzzz310Maka25Zzzz7Kawi17Zzzz1Kawi41Zzzz3Kawi29",
   "Zzzz85Lisu1Zzzz15Taml50Zzzz13Taml1Xsux922Zzzz102Xsux111Zzzz1Xsux5Zzzz11Xsux196Zzzz2636Cpmn99",
   "Zzzz13Egyp1110Zzzz10Egyp3995Zzzz5Hluw583Zzzz6841Gukh58Zzzz1734Bamu569Zzzz7Mroo31Zzzz1Mroo10Z",
   "zzz4Mroo2Tnsa79Zzzz1Tnsa10Zzzz6Bass30Zzzz2Bass6Zzzz10Hmng70Zzzz10Hmng10Zzzz1Hmng7Zzzz1Hmng21",
   "Zzzz5Hmng19Zzzz432Krai58Zzzz198Medf91Zzzz101Plrd75Zzzz4Plrd57Zzzz7Plrd17Zzzz64Tang1Nshu1Hani",
   "2Kits1Zzzz11Hani2Zzzz14Tang6136Zzzz8Tang768Kits470Zzzz41Kits1Tang9Zzzz8935Kana4Zzzz1Kana7Zzz",
   "z1Kana2Zzzz1Kana1Hira287Kana3Zzzz15Hira1Zzzz29Hira3Zzzz2Kana1Zzzz14Kana4Zzzz8Nshu396Zzzz2308",
   "Dupl107Zzzz5Dupl13Zzzz3Dupl9Zzzz7Dupl10Zzzz2Dupl4Zyyy4Zzzz3932Zyyy250Zzzz6Zyyy436Zzzz76Zinh4",
   "6Zzzz2Zinh23Zzzz9Zyyy116Zzzz60Zyyy246Zzzz10Zyyy39Zzzz2Zyyy62Zinh3Zyyy17Zinh8Zyyy2Zinh7Zyyy30",
   "Zinh4Zyyy61Zzzz21Grek70Zzzz122Zyyy20Zzzz12Zyyy20Zzzz12Zyyy87Zzzz9Zyyy25Zzzz135Zyyy85Zzzz1Zyy",
   "y71Zzzz1Zyyy2Zzzz2Zyyy1Zzzz2Zyyy2Zzzz2Zyyy4Zzzz1Zyyy12Zzzz1Zyyy1Zzzz1Zyyy7Zzzz1Zyyy65Zzzz1Zy",
   "yy4Zzzz2Zyyy8Zzzz1Zyyy7Zzzz1Zyyy28Zzzz1Zyyy4Zzzz1Zyyy5Zzzz1Zyyy1Zzzz3Zyyy7Zzzz1Zyyy340Zzzz2Z",
   "yyy292Zzzz2Zyyy50Sgnw652Zzzz15Sgnw5Zzzz1Sgnw15Zzzz1104Latn31Zzzz6Latn6Zzzz213Glag7Zzzz1Glag1",
   "7Zzzz2Glag7Zzzz1Glag2Zzzz1Glag5Zzzz5Cyrl62Zzzz33Cyrl1Zzzz112Hmnp45Zzzz3Hmnp14Zzzz2Hmnp10Zzzz",
   "4Hmnp2Zzzz320Toto31Zzzz17Wcho58Zzzz5Wcho1Zzzz464Nagm42Zzzz214Onao43Zzzz4Onao1Zzzz480Ethi7Zzz",
   "z1Ethi4Zzzz1Ethi2Zzzz1Ethi15Zzzz1Mend197Zzzz2Mend16Zzzz41Adlm76Zzzz4Adlm10Zzzz4Adlm2Zzzz785Z",
   "yyy68Zzzz76Zyyy61Zzzz194Arab4Zzzz1Arab27Zzzz1Arab2Zzzz1Arab1Zzzz2Arab1Zzzz1Arab10Zzzz1Arab4Z",
   "zzz1Arab1Zzzz1Arab1Zzzz6Arab1Zzzz4Arab1Zzzz1Arab1Zzzz1Arab1Zzzz1Arab3Zzzz1Arab2Zzzz1Arab1Zzz",
   "z2Arab1Zzzz1Arab1Zzzz1Arab1Zzzz1Arab1Zzzz1Arab1Zzzz1Arab2Zzzz1Arab1Zzzz2Arab4Zzzz1Arab7Zzzz1",
   "Arab4Zzzz1Arab4Zzzz1Arab1Zzzz1Arab10Zzzz1Arab17Zzzz5Arab3Zzzz1Arab5Zzzz1Arab17Zzzz52Arab2Zzz",
   "z270Zyyy44Zzzz4Zyyy100Zzzz12Zyyy15Zzzz2Zyyy15Zzzz1Zyyy15Zzzz1Zyyy37Zzzz10Zyyy174Zzzz56Zyyy26",
   "Hira1Zyyy2Zzzz13Zyyy44Zzzz4Zyyy9Zzzz7Zyyy2Zzzz14Zyyy6Zzzz154Zyyy984Zzzz4Zyyy17Zzzz3Zyyy13Zzz",
   "z3Zyyy119Zzzz4Zyyy95Zzzz6Zyyy12Zzzz4Zyyy1Zzzz15Zyyy12Zzzz4Zyyy56Zzzz8Zyyy10Zzzz6Zyyy40Zzzz8Z",
   "yyy30Zzzz2Zyyy12Zzzz4Zyyy2Zzzz62Zyyy340Zzzz12Zyyy14Zzzz2Zyyy13Zzzz3Zyyy10Zzzz5Zyyy56Zzzz7Zyy",
   "y15Zzzz2Zyyy11Zzzz6Zyyy9Zzzz7Zyyy147Zzzz1Zyyy102Zzzz1030Hani42720Zzzz32Hani4154Zzzz6Hani222Z",
   "zzz2Hani5762Zzzz14Hani7473Zzzz15Hani622Zzzz2466Hani542Zzzz1506Hani4939Zzzz5Hani4192Zzzz71176",
   "1Zyyy1Zzzz30Zyyy96Zzzz128Zinh240Zzzz196112"]

def scriptTable : LabelTable := LabelTable.ofRuns (String.join scriptRuns)

/-- The four-letter code of the script that a character belongs to. -/
def script (c : Char) : String := scriptTable.label c.toNat

/-! ## Characters of several scripts -/

/-- The codes of the scripts in which characters are used, with slashes between them; a hyphen where this is only
the script that they belong to. -/
def scriptUseRuns : List String :=
  ["-183Avst/Cari/Copt/Dupl/Elba/Geor/Glag/Gong/Goth/Grek/Hani/Latn/Lydi/Mahj/Perm/Shaw1-516Beng",
   "/Cyrl/Deva/Latn/Lisu/Thai/Toto1-10Bopo/Latn1-1Bopo/Latn3-1Latn/Lisu1-9Latn/Thai1-1Bopo/Latn1",
   "-38Cher/Copt/Cyrl/Grek/Latn/Perm/Sunu/Tale1Cher/Cyrl/Grek/Latn/Osge/Sunu/Tale/Todr1Cher/Cyrl",
   "/Latn/Tfng1Glag/Latn/Sunu/Syrc/Thai1Aghb/Cher/Copt/Cyrl/Goth/Grek/Latn/Osge/Syrc/Tfng/Todr1C",
   "opt/Elba/Glag/Goth/Kana/Latn1Cyrl/Grek/Latn/Perm1Copt/Dupl/Hebr/Latn/Perm/Syrc/Tale/Tfng/Tod",
   "r1Armn/Cyrl/Dupl/Goth/Grek/Hebr/Latn/Perm/Syrc/Tale1Latn/Tfng1Dupl/Latn/Syrc1Cher/Cyrl/Latn/",
   "Osge1Cher/Latn/Tale1Latn/Sunu1Ethi/Latn1-1Latn/Sunu1Cyrl/Latn/Todr1-1Grek/Latn/Perm/Todr1-12",
   "Latn/Syrc1-2Cher/Dupl/Kana/Latn/Syrc1Cher/Dupl/Latn/Syrc1Latn/Syrc1-7Latn/Sunu/Syrc1Latn/Syr",
   "c1-1Cher/Latn/Syrc1Aghb/Cher/Goth/Latn/Sunu/Thai1-16Grek1-2Grek1-18Latn/Osge1-5Aghb/Latn/Tod",
   "r1-4Latn13-4Copt/Grek2-269Cyrl/Perm1Cyrl/Glag1Cyrl/Latn2Cyrl/Glag1-257Armn/Geor/Glag1-130Ara",
   "b/Gara/Nkoo/Rohg/Syrc/Thaa/Yezi1-14Arab/Gara/Nkoo/Rohg/Syrc/Thaa/Yezi1Arab/Syrc/Thaa1-2Adlm/",
   "Arab/Gara/Nkoo/Rohg/Syrc/Thaa/Yezi1-32Adlm/Arab/Mand/Mani/Ougr/Phlp/Rohg/Sogd/Syrc1-10Arab/S",
   "yrc11-10Arab/Thaa/Yezi10-6Arab/Syrc1-99Arab/Rohg1-636Beng/Deva/Gran/Gujr/Guru/Knda/Latn/Mlym",
   "/Orya/Shrd/Taml/Telu/Tirh1Beng/Deva/Gran/Gujr/Guru/Knda/Latn/Mlym/Orya/Taml/Telu/Tirh1-17Ben",
   "g/Deva/Dogr/Gong/Gonm/Gran/Gujr/Guru/Knda/Mahj/Mlym/Nand/Onao/Orya/Sind/Sinh/Sylo/Takr/Taml/",
   "Telu/Tirh1Beng/Deva/Dogr/Gong/Gonm/Gran/Gujr/Gukh/Guru/Knda/Limb/Mahj/Mlym/Nand/Onao/Orya/Si",
   "nd/Sinh/Sylo/Takr/Taml/Telu/Tirh1Deva/Dogr/Kthi/Mahj10-118Beng/Cakm/Sylo10-118Guru/Mult10-11",
   "8Gujr/Khoj10-246Gran/Taml14-242Knda/Nand/Tutg10-848Cakm/Mymr/Tale10-177Geor/Glag/Latn1-1519R",
   "unr3-71Buhd/Hano/Tagb/Tglg2-203Mong/Phag2-1Mong/Phag1-1226Beng/Deva/Gran/Knda1Deva1Beng/Deva",
   "/Gran/Knda1Deva/Gran/Knda1Deva1Beng/Deva2Deva/Shrd1Beng/Deva1Deva/Shrd1Deva/Knda/Mlym/Orya/T",
   "aml/Telu1Deva1Deva/Shrd2Deva2Deva/Shrd1Beng/Deva1Deva7Deva/Nand1Beng/Deva1Deva2Beng/Deva1Dev",
   "a4Beng/Deva/Gran/Knda/Mlym/Nand/Orya/Sinh/Telu/Tirh/Tutg1Deva/Gran1Deva/Gran/Knda/Tutg1Beng/",
   "Deva2Beng1Deva/Gran2Nand1-197Grek2-54Cyrl/Latn/Syrc1-1Syrc1-564Latn/Mong/Phag1-31Adlm/Arab1-",
   "10Cari/Geor/Glag/Hung/Lyci/Orkh1-2Cari/Grek/Hung/Mero1-146Deva/Gran/Latn1-3366Copt/Latn1-24A",
   "vst/Orkh1Avst/Cari/Geor/Hung/Kthi/Lydi/Samr1-10Dupl1-4Adlm/Arab/Hung1-1Cyrl/Glag1-428Hani/Ta",
   "ng16-1Bopo/Hang/Hani/Hira/Kana/Mong/Yiii1Bopo/Hang/Hani/Hira/Kana/Mong/Phag/Yiii1Bopo/Hang/H",
   "ani/Hira/Kana1-2Hani1-1Bopo/Hang/Hani/Hira/Kana/Mong/Tibt/Yiii2Bopo/Hang/Hani/Hira/Kana/Lisu",
   "/Mong/Tibt/Yiii2Bopo/Hang/Hani/Hira/Kana/Yiii6-1Bopo/Hang/Hani/Hira/Kana1Bopo/Hang/Hani/Hira",
   "/Kana/Yiii8Bopo/Hang/Hani/Hira/Kana4-10Bopo/Hani4-2Bopo/Hang/Hani/Hira/Kana1Hira/Kana5-1Bopo",
   "/Hang/Hani/Hira/Kana1-4Hani/Hira/Kana2Hani2-89Hira/Kana4-3Hira/Kana1-90Bopo/Hang/Hani/Hira/K",
   "ana/Yiii1Hira/Kana1-147Hani16-32Hani38-9Hani/Tang1-48Hani40-56Hani49-15Hani12-51Hani1-88Hani",
   "25-10Hani5-96Hani31-29296Cyrl/Glag1-144Hani/Latn8-296Deva/Dogr/Gujr/Guru/Khoj/Knda/Kthi/Mahj",
   "/Mlym/Modi/Nand/Shrd/Sind/Takr/Tirh/Tutg3Deva/Dogr/Gujr/Guru/Khoj/Knda/Kthi/Mahj/Modi/Nand/S",
   "hrd/Sind/Takr/Tirh/Tutg3Deva/Dogr/Gujr/Guru/Khoj/Kthi/Mahj/Modi/Sind/Takr/Tirh2Deva/Dogr/Guj",
   "r/Guru/Khoj/Kthi/Mahj/Modi/Shrd/Sind/Takr/Tirh1Deva/Dogr/Gujr/Guru/Khoj/Kthi/Mahj/Modi/Sind/",
   "Takr/Tirh1-183Beng/Deva/Tutg1-1Deva/Taml1-58Kali/Latn/Mymr1-160Bugi/Java1-21358Arab/Nkoo2-17",
   "8Arab/Thaa1-10Arab/Thaa1-71Bopo/Hang/Hani/Hira/Kana2-282Bopo/Hang/Hani/Hira/Kana/Yiii5-10Hir",
   "a/Kana1-45Hira/Kana2-352Cpmn/Cprt/Linb2Cprt/Linb1-4Cprt/Lina/Linb45-3Cprt/Linb9-416Arab/Copt",
   "28-2038Mani/Ougr1-2062Gran/Taml1-1Gran/Taml1-55Gran/Taml2-3219Gran/Taml2-1Gran/Taml1-40140Du",
   "pl4-5820Hani18-7902Hani2-986542"]

def scriptUseTable : LabelTable := LabelTable.ofRuns (String.join scriptUseRuns)

/-- Whether a character is used in the script of that code. -/
def usedIn (code : String) (c : Char) : Bool :=
  match scriptUseTable.label c.toNat with
  | "-" => script c == code
  | codes => (codes.splitOn "/").contains code

/-! ## Names of scripts -/

/-- For each script its code and its other names, with slashes between them. -/
def scriptNameText : List String :=
  ["Adlm/Adlam Aghb/Caucasian_Albanian Ahom Arab/Arabic Armi/Imperial_Aramaic Armn/Armenian ",
   "Avst/Avestan Bali/Balinese Bamu/Bamum Bass/Bassa_Vah Batk/Batak Beng/Bengali Bhks/Bhaiksuki ",
   "Bopo/Bopomofo Brah/Brahmi Brai/Braille Bugi/Buginese Buhd/Buhid Cakm/Chakma ",
   "Cans/Canadian_Aboriginal Cari/Carian Cham Cher/Cherokee Chrs/Chorasmian Copt/Coptic/Qaac ",
   "Cpmn/Cypro_Minoan Cprt/Cypriot Cyrl/Cyrillic Deva/Devanagari Diak/Dives_Akuru Dogr/Dogra ",
   "Dsrt/Deseret Dupl/Duployan Egyp/Egyptian_Hieroglyphs Elba/Elbasan Elym/Elymaic ",
   "Ethi/Ethiopic Gara/Garay Geor/Georgian Glag/Glagolitic Gong/Gunjala_Gondi ",
   "Gonm/Masaram_Gondi Goth/Gothic Gran/Grantha Grek/Greek Gujr/Gujarati Gukh/Gurung_Khema ",
   "Guru/Gurmukhi Hang/Hangul Hani/Han Hano/Hanunoo Hatr/Hatran Hebr/Hebrew Hira/Hiragana ",
   "Hluw/Anatolian_Hieroglyphs Hmng/Pahawh_Hmong Hmnp/Nyiakeng_Puachue_Hmong Hung/Old_Hungarian ",
   "Ital/Old_Italic Java/Javanese Kali/Kayah_Li Kana/Katakana Kawi Khar/Kharoshthi Khmr/Khmer ",
   "Khoj/Khojki Kits/Khitan_Small_Script Knda/Kannada Krai/Kirat_Rai Kthi/Kaithi Lana/Tai_Tham ",
   "Laoo/Lao Latn/Latin Lepc/Lepcha Limb/Limbu Lina/Linear_A Linb/Linear_B Lisu Lyci/Lycian ",
   "Lydi/Lydian Mahj/Mahajani Maka/Makasar Mand/Mandaic Mani/Manichaean Marc/Marchen ",
   "Medf/Medefaidrin Mend/Mende_Kikakui Merc/Meroitic_Cursive Mero/Meroitic_Hieroglyphs ",
   "Mlym/Malayalam Modi Mong/Mongolian Mroo/Mro Mtei/Meetei_Mayek Mult/Multani Mymr/Myanmar ",
   "Nagm/Nag_Mundari Nand/Nandinagari Narb/Old_North_Arabian Nbat/Nabataean Newa Nkoo/Nko ",
   "Nshu/Nushu Ogam/Ogham Olck/Ol_Chiki Onao/Ol_Onal Orkh/Old_Turkic Orya/Oriya Osge/Osage ",
   "Osma/Osmanya Ougr/Old_Uyghur Palm/Palmyrene Pauc/Pau_Cin_Hau Perm/Old_Permic Phag/Phags_Pa ",
   "Phli/Inscriptional_Pahlavi Phlp/Psalter_Pahlavi Phnx/Phoenician Plrd/Miao ",
   "Prti/Inscriptional_Parthian Rjng/Rejang Rohg/Hanifi_Rohingya Runr/Runic Samr/Samaritan ",
   "Sarb/Old_South_Arabian Saur/Saurashtra Sgnw/SignWriting Shaw/Shavian Shrd/Sharada ",
   "Sidd/Siddham Sind/Khudawadi Sinh/Sinhala Sogd/Sogdian Sogo/Old_Sogdian Sora/Sora_Sompeng ",
   "Soyo/Soyombo Sund/Sundanese Sunu/Sunuwar Sylo/Syloti_Nagri Syrc/Syriac Tagb/Tagbanwa ",
   "Takr/Takri Tale/Tai_Le Talu/New_Tai_Lue Taml/Tamil Tang/Tangut Tavt/Tai_Viet Telu/Telugu ",
   "Tfng/Tifinagh Tglg/Tagalog Thaa/Thaana Thai Tibt/Tibetan Tirh/Tirhuta Tnsa/Tangsa ",
   "Todr/Todhri Toto Tutg/Tulu_Tigalari Ugar/Ugaritic Vaii/Vai Vith/Vithkuqi Wara/Warang_Citi ",
   "Wcho/Wancho Xpeo/Old_Persian Xsux/Cuneiform Yezi/Yezidi Yiii/Yi Zanb/Zanabazar_Square ",
   "Zinh/Inherited/Qaai Zyyy/Common"]

/-- For each script all names it goes by, its code first. -/
def scriptNames : List (List String) :=
  ((String.join scriptNameText).splitOn " ").map (·.splitOn "/")

end CycleLog.Text
