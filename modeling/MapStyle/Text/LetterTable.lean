/-
Letters with marks in the Unicode character database.

A letter with a mark behind it and the letter that is both in one are two spellings of
the same text.  Only letters that stand for themselves in the name of a host occur, which
leaves out capitals.

* `markedLetters` — for each mark the letters without and with it, one after the other.
-/
namespace MapStyle.Text

/-- A mark, and letters in pairs: each letter without the mark, then with it. -/
def markedLetters : List (Nat × String) := [
  (0x300, "aàeèiìnǹoòuùwẁyỳâầêềôồüǜăằēḕōṑơờưừαὰεὲηὴιὶοὸυὺωὼϊῒϋῢеѐиѝἀἂἁἃἐἒἑἓἠἢἡἣἰἲἱἳὀὂὁὃὐὒ"),
  (0x300, "ὑὓὠὢὡὣ"),
  (0x301, "aácćeégǵiíkḱlĺmḿnńoópṕrŕsśuúwẃyýzźâấåǻæǽçḉêếïḯôốõṍøǿüǘăắēḗōṓũṹơớưứαάεέηήιίοόυύ"),
  (0x301, "ωώϊΐϋΰгѓкќἀἄἁἅἐἔἑἕἠἤἡἥἰἴἱἵὀὄὁὅὐὔὑὕὠὤὡὥ"), (0x302, "aâcĉeêgĝhĥiîjĵoôsŝuûwŵyŷzẑạậẹệọộ"),
  (0x303, "aãeẽiĩnñoõuũvṽyỹâẫêễôỗăẵơỡưữ"),
  (0x304, "aāeēgḡiīoōuūyȳäǟæǣõȭöȫüǖǫǭȧǡȯȱαᾱιῑυῡиӣуӯḷḹṛṝ"),
  (0x306, "aăeĕgğiĭoŏuŭȩḝαᾰιῐυῠаӑеӗжӂийуўạặ"),
  (0x307, "aȧbḃcċdḋeėfḟgġhḣmṁnṅoȯpṗrṙsṡtṫwẇxẋyẏzżśṥšṧṣṩ𐗒𐗉𐗚𐗤"),
  (0x308, "aäeëhḧiïoötẗuüwẅxẍyÿõṏūṻιϊυϋаӓеёжӝзӟиӥоӧуӱчӵыӹэӭіїәӛөӫ"),
  (0x309, "aảeẻiỉoỏuủyỷâẩêểôổăẳơởưử"), (0x30A, "aåuůwẘyẙ"), (0x30B, "oőuűуӳ"),
  (0x30C, "aǎcčdďeěgǧhȟiǐjǰkǩlľnňoǒrřsštťuǔzžüǚʒǯ"), (0x30F, "aȁeȅiȉoȍrȑuȕѵѷ"),
  (0x311, "aȃeȇiȋoȏrȓuȗ"), (0x313, "αἀεἐηἠιἰοὀρῤυὐωὠ"), (0x314, "αἁεἑηἡιἱοὁρῥυὑωὡ"),
  (0x31B, "oơuư"), (0x323, "aạbḅdḍeẹhḥiịkḳlḷmṃnṇoọrṛsṣtṭuụvṿwẉyỵzẓơợưự"), (0x324, "uṳ"),
  (0x325, "aḁ"), (0x326, "sștț"), (0x327, "cçdḑeȩgģhḩkķlļnņrŗsştţ"), (0x328, "aąeęiįoǫuų"),
  (0x32D, "dḓeḙlḽnṋtṱuṷ"), (0x32E, "hḫ"), (0x330, "eḛiḭuṵ"), (0x331, "bḇdḏhẖkḵlḻnṉrṟtṯzẕ"),
  (0x338, "<≮=≠>≯←↚→↛↔↮⇐⇍⇒⇏⇔⇎∃∄∈∉∋∌∣∤∥∦∼≁≃≄≅≇≈≉≍≭≡≢≤≰≥≱≲≴≳≵≶≸≷≹≺⊀≻⊁≼⋠≽⋡⊂⊄⊃⊅⊆⊈⊇⊉⊑⋢⊒⋣⊢⊬⊨⊭⊩⊮"),
  (0x338, "⊫⊯⊲⋪⊳⋫⊴⋬⊵⋭"), (0x342, "αᾶηῆιῖυῦωῶϊῗϋῧἀἆἁἇἠἦἡἧἰἶἱἷὐὖὑὗὠὦὡὧ"), (0x653, "اآ"),
  (0x654, "اأوؤيئہۂےۓەۀ"), (0x655, "اإ"), (0x93C, "नऩरऱळऴ"), (0x9BE, "\u09C7\u09CB"),
  (0x9D7, "\u09C7\u09CC"), (0xB3E, "\u0B47\u0B4B"), (0xB56, "\u0B47\u0B48"),
  (0xB57, "\u0B47\u0B4C"), (0xBBE, "\u0BC6\u0BCA\u0BC7\u0BCB"), (0xBD7, "ஒஔ\u0BC6\u0BCC"),
  (0xC56, "\u0C46\u0C48"), (0xCC2, "\u0CC6\u0CCA"),
  (0xCD5, "\u0CBF\u0CC0\u0CC6\u0CC7\u0CCA\u0CCB"), (0xCD6, "\u0CC6\u0CC8"),
  (0xD3E, "\u0D46\u0D4A\u0D47\u0D4B"), (0xD57, "\u0D46\u0D4C"),
  (0xDCA, "\u0DD9\u0DDA\u0DDC\u0DDD"), (0xDCF, "\u0DD9\u0DDC"), (0xDDF, "\u0DD9\u0DDE"),
  (0x102E, "ဥဦ"),
  (0x1B35, "ᬅᬆᬇᬈᬉᬊᬋᬌᬍᬎᬑᬒ\u1B3A\u1B3B\u1B3C\u1B3D\u1B3E\u1B40\u1B3F\u1B41\u1B42\u1B43"),
  (0x3099, "うゔかがきぎくぐけげこごさざしじすずせぜそぞただちぢつづてでとどはばひびふぶへべほぼゝゞウヴカガキギクグケゲコゴサザシジスズセゼソゾタダチヂツヅテデトドハバ"),
  (0x3099, "ヒビフブヘベホボワヷヰヸヱヹヲヺヽヾ"), (0x309A, "はぱひぴふぷへぺほぽハパヒピフプヘペホポ"), (0x110BA, "𑂙𑂚𑂛𑂜𑂥𑂫"),
  (0x11127, "𑄱𑄮𑄲𑄯"), (0x1133E, "𑍇𑍋"), (0x11357, "𑍇𑍌"), (0x113B8, "𑏅𑎸"), (0x113BB, "𑎄𑎅"),
  (0x113C2, "𑎋𑎎𑏅𑏂"), (0x113C9, "𑎂𑎃𑎐𑎑𑏅𑏉"), (0x114B0, "𑒹𑒼"), (0x114BA, "𑒹𑒻"), (0x114BD, "𑒹𑒾"),
  (0x115AF, "𑖸𑖺𑖹𑖻"), (0x11930, "𑤵𑤸"), (0x1611E, "𖄡𖄞"), (0x1611F, "𖄦𖄡𖄦𖄢𖄧𖄩𖄤"), (0x16120, "𖄨𖄡𖄨"),
  (0x16129, "𖄡𖄩"), (0x16D67, "𖵣𖵪𖵨𖵩𖵪")]

end MapStyle.Text
