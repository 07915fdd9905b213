import DatePattern.Zone.History

/-! Offset histories of zones in Europe, Africa, the Atlantic and the Antarctic. -/

namespace DatePattern.History

/-- The history of Europe/London. -/
def london : History where
  name := "Europe/London"
  offsets := [⟨-75, 0⟩, ⟨0, 0⟩, ⟨0, 3600⟩, ⟨0, 7200⟩, ⟨3600, 0⟩]
  changes := [
    "-3852662325b -1691964000c -1680472800b -1664143200c -1650146400b -1633903200c -1617487200b",
    "-1601848800c -1586037600b -1570399200c -1552168800b -1538344800c -1522533600b -1507500000c",
    "-1490565600b -1473631200c -1460930400b -1442786400c -1428876000b -1410732000c -1396216800b",
    "-1379282400c -1364767200b -1348437600c -1333317600b -1315778400c -1301263200b -1284328800c",
    "-1269813600b -1253484000c -1238364000b -1221429600c -1206914400b -1189980000c -1175464800b",
    "-1159135200c -1143410400b -1126476000c -1111960800b -1095631200c -1080511200b -1063576800c",
    "-1049061600b -1032127200c -1017612000b -1001282400c -986162400b -969228000c -950479200b",
    "-942012000c -904518000d -896050800c -875487600d -864601200c -844038000d -832546800c",
    "-812588400d -798073200c -781052400d -772066800c -764805600b -748476000c -733356000b",
    "-719445600c -717030000d -706748400c -699487200b -687996000c -668037600b -654732000c",
    "-636588000b -622072800c -605743200b -590623200c -574293600b -558568800c -542239200b",
    "-527119200c -512604000b -496274400c -481154400b -464220000c -449704800b -432165600c",
    "-417650400b -401320800c -386200800b -369266400c -354751200b -337816800c -323301600b",
    "-306972000c -291852000b -276732000c -257983200b -245282400c -226533600b -213228000c",
    "-195084000b -182383200c -163634400b -150933600c -132184800b -119484000c -100735200b",
    "-88034400c -68680800b -59004000c -37242000e 57722400b 69818400c 89172000b 101268000c",
    "120621600b 132717600c 152071200b 164167200c 183520800b 196221600c 214970400b 227671200c",
    "246420000b 259120800c 278474400b 290570400c 309924000b 322020000c 341373600b 354675600c",
    "372819600b 386125200c 404269200b 417574800c 435718800b 449024400c 467773200b 481078800c",
    "499222800b 512528400c 530672400b 543978000c 562122000b 575427600c 593571600b 606877200c",
    "625626000b 638326800c 657075600b 670381200c 688525200b 701830800c 719974800b 733280400c",
    "751424400b 764730000c 782874000b 796179600c 814323600b"]
  yearly := [⟨1, 3, 25, 3600, 'c'⟩, ⟨1, 10, 25, 3600, 'b'⟩]
  firstYear := 1996
  lastYear := 2099

/-- The history of Europe/Lisbon. -/
def lisbon : History where
  name := "Europe/Lisbon"
  offsets := [⟨-2205, 0⟩, ⟨0, 0⟩, ⟨0, 3600⟩, ⟨0, 7200⟩, ⟨3600, 0⟩, ⟨3600, 3600⟩]
  changes := [
    "-1830384000b -1689555600c -1677801600b -1667433600c -1647738000b -1635897600c -1616202000b",
    "-1604361600c -1584666000b -1572739200c -1553043600b -1541203200c -1521507600b -1442451600c",
    "-1427677200b -1379293200c -1364778000b -1348448400c -1333328400b -1316394000c -1301274000b",
    "-1284339600c -1269824400b -1221440400c -1206925200b -1191200400c -1175475600b -1127696400c",
    "-1111971600b -1096851600c -1080522000b -1063587600c -1049072400b -1033347600c -1017622800b",
    "-1002502800c -986173200b -969238800c -950490000b -942022800c -922496400b -906944400c",
    "-891133200b -877309200c -873684000d -864007200c -857955600b -845859600c -842839200d",
    "-831348000c -825901200b -814410000c -810784800d -799898400c -794451600b -782960400c",
    "-779335200d -768448800c -763002000b -749091600c -733366800b -717631200c -701906400b",
    "-686181600c -670456800b -654732000c -639007200b -623282400c -607557600b -591832800c",
    "-575503200b -559778400c -544053600b -528328800c -512604000b -496879200c -481154400b",
    "-465429600c -449704800b -433980000c -417650400b -401925600c -386200800b -370476000c",
    "-354751200b -339026400c -323301600b -307576800c -291852000b -276127200c -260402400b",
    "-244677600c -228348000b -212623200c -196898400b -181173600c -165448800b -149724000c",
    "-133999200b -118274400c -102549600e 212544000b 228268800c 243993600b 260326800c 276051600b",
    "291776400c 307501200b 323830800c 338950800b 354672000c 370396800b 386121600c 401846400b",
    "417571200c 433296000b 449020800c 465350400b 481075200c 496800000b 512528400c 528253200b",
    "543978000c 559702800b 575427600c 591152400b 606877200c 622602000b 638326800c 654656400b",
    "670381200c 686106000b 701830800c 717555600e 733280400f 749005200e 764730000f 780454800e",
    "796179600f 811904400e"]
  yearly := [⟨1, 3, 25, 3600, 'c'⟩, ⟨1, 10, 25, 3600, 'b'⟩]
  firstYear := 1996
  lastYear := 2099

/-- The history of Europe/Paris. -/
def paris : History where
  name := "Europe/Paris"
  offsets := [⟨561, 0⟩, ⟨0, 0⟩, ⟨0, 3600⟩, ⟨3600, 3600⟩, ⟨3600, 0⟩, ⟨0, 7200⟩]
  changes := [
    "-2486592561a -1855958961b -1689814800c -1680397200b -1665363600c -1648342800b -1635123600c",
    "-1616893200b -1604278800c -1585443600b -1574038800c -1552266000b -1539997200c -1520557200b",
    "-1507510800c -1490576400b -1470618000c -1459126800b -1444006800c -1427677200b -1411952400c",
    "-1396227600b -1379293200c -1364778000b -1348448400c -1333328400b -1316394000c -1301274000b",
    "-1284339600c -1269824400b -1253494800c -1238374800b -1221440400c -1206925200b -1191200400c",
    "-1175475600b -1160355600c -1143421200b -1127696400c -1111971600b -1096851600c -1080522000b",
    "-1063587600c -1049072400b -1033347600c -1017622800b -1002502800c -986173200b -969238800c",
    "-950490000b -942012000c -932436000d -857257200e -844556400d -828226800e -812502000d",
    "-800071200f -796266000c -781052400f -766623600e 196819200d 212540400e 228877200d 243997200e",
    "260326800d 276051600e 291776400d 307501200e 323830800d 338950800e 354675600d 370400400e",
    "386125200d 401850000e 417574800d 433299600e 449024400d 465354000e 481078800d 496803600e",
    "512528400d 528253200e 543978000d 559702800e 575427600d 591152400e 606877200d 622602000e",
    "638326800d 654656400e 670381200d 686106000e 701830800d 717555600e 733280400d 749005200e",
    "764730000d 780454800e 796179600d 811904400e"]
  yearly := [⟨1, 3, 25, 3600, 'd'⟩, ⟨1, 10, 25, 3600, 'e'⟩]
  firstYear := 1996
  lastYear := 2099

/-- The history of Europe/Berlin. -/
def berlin : History where
  name := "Europe/Berlin"
  offsets := [⟨3208, 0⟩, ⟨3600, 0⟩, ⟨3600, 3600⟩, ⟨3600, 7200⟩]
  changes := [
    "-2422054408b -1693706400c -1680483600b -1663455600c -1650150000b -1632006000c -1618700400b",
    "-938905200c -857257200b -844556400c -828226800b -812502000c -796777200b -781052400c",
    "-776563200d -765936000c -761180400b -748479600c -733273200b -717631200c -714610800d",
    "-710380800c -701910000b -684975600c -670460400b -654130800c -639010800b 323830800c",
    "338950800b 354675600c 370400400b 386125200c 401850000b 417574800c 433299600b 449024400c",
    "465354000b 481078800c 496803600b 512528400c 528253200b 543978000c 559702800b 575427600c",
    "591152400b 606877200c 622602000b 638326800c 654656400b 670381200c 686106000b 701830800c",
    "717555600b 733280400c 749005200b 764730000c 780454800b 796179600c 811904400b"]
  yearly := [⟨1, 3, 25, 3600, 'c'⟩, ⟨1, 10, 25, 3600, 'b'⟩]
  firstYear := 1996
  lastYear := 2099

/-- The history of Europe/Madrid. -/
def madrid : History where
  name := "Europe/Madrid"
  offsets := [⟨-884, 0⟩, ⟨0, 0⟩, ⟨0, 3600⟩, ⟨0, 7200⟩, ⟨3600, 0⟩, ⟨3600, 3600⟩]
  changes := [
    "-2177452800b -1631926800c -1616889600b -1601168400c -1585353600b -1442451600c -1427673600b",
    "-1379293200c -1364774400b -1348448400c -1333324800b -1316390400c -1301270400b -1284339600c",
    "-1269820800b -1026954000c -1017619200b -1001898000c -999482400d -986090400c -954115200b",
    "-940208400e -873079200f -862621200e -842839200f -828320400e -811389600f -796870800e",
    "-779940000f -765421200e -748490400f -733971600e -652327200f -639018000e 135122400f",
    "150246000e 166572000f 181695600e 196812000f 212540400e 228866400f 243990000e 260326800f",
    "276051600e 291776400f 307501200e 323830800f 338950800e 354675600f 370400400e 386125200f",
    "401850000e 417574800f 433299600e 449024400f 465354000e 481078800f 496803600e 512528400f",
    "528253200e 543978000f 559702800e 575427600f 591152400e 606877200f 622602000e 638326800f",
    "654656400e 670381200f 686106000e 701830800f 717555600e 733280400f 749005200e 764730000f",
    "780454800e 796179600f 811904400e"]
  yearly := [⟨1, 3, 25, 3600, 'f'⟩, ⟨1, 10, 25, 3600, 'e'⟩]
  firstYear := 1996
  lastYear := 2099

/-- The history of Europe/Athens. -/
def athens : History where
  name := "Europe/Athens"
  offsets := [⟨5692, 0⟩, ⟨7200, 0⟩, ⟨7200, 3600⟩, ⟨3600, 3600⟩, ⟨3600, 0⟩]
  changes := [
    "-2344642492a -1686101632b -1182996000c -1178161200b -906861600c -904878000d -857257200e",
    "-844477200d -828237600e -812422800b -552362400c -541652400b 166485600c 186184800b",
    "198028800c 213753600b 228873600c 244080000b 260323200c 275446800b 291798000c 307407600b",
    "323388000c 338936400b 354675600c 370400400b 386125200c 401850000b 417574800c 433299600b",
    "449024400c 465354000b 481078800c 496803600b 512528400c 528253200b 543978000c 559702800b",
    "575427600c 591152400b 606877200c 622602000b 638326800c 654656400b 670381200c 686106000b",
    "701830800c 717555600b 733280400c 749005200b 764730000c 780454800b 796179600c 811904400b"]
  yearly := [⟨1, 3, 25, 3600, 'c'⟩, ⟨1, 10, 25, 3600, 'b'⟩]
  firstYear := 1996
  lastYear := 2099

/-- The history of Europe/Moscow. -/
def moscow : History where
  name := "Europe/Moscow"
  offsets := [⟨9017, 0⟩, ⟨9079, 0⟩, ⟨9079, 3600⟩, ⟨9079, 7200⟩, ⟨10800, 3600⟩, ⟨10800, 0⟩,
    ⟨10800, 7200⟩, ⟨7200, 0⟩, ⟨7200, 3600⟩, ⟨14400, 0⟩]
  changes := [
    "-2840149817a -1688265017b -1656819079c -1641353479b -1627965079d -1618716679c -1596429079d",
    "-1593820800e -1589860800f -1542427200e -1539493200g -1525323600e -1522728000f -1491188400h",
    "-1247536800f 354920400e 370728000f 386456400e 402264000f 417992400e 433800000f 449614800e",
    "465346800f 481071600e 496796400f 512521200e 528246000f 543970800e 559695600f 575420400e",
    "591145200f 606870000e 622594800f 638319600e 654649200f 670374000i 686102400h 695779200f",
    "701823600e 717548400f 733273200e 748998000f 764722800e 780447600f 796172400e 811897200f",
    "828226800e 846370800f 859676400e 877820400f 891126000e 909270000f 922575600e 941324400f",
    "954025200e 972774000f 985474800e 1004223600f 1017529200e 1035673200f 1048978800e",
    "1067122800f 1080428400e 1099177200f 1111878000e 1130626800f 1143327600e 1162076400f",
    "1174777200e 1193526000f 1206831600e 1224975600f 1238281200e 1256425200f 1269730800e",
    "1288479600f 1301180400j 1414274400f"]

/-- The history of Europe/Dublin. -/
def dublin : History where
  name := "Europe/Dublin"
  offsets := [⟨-1521, 0⟩, ⟨-1521, 3600⟩, ⟨0, 0⟩, ⟨0, 3600⟩, ⟨3600, 0⟩, ⟨3600, -3600⟩]
  changes := [
    "-2821649679a -1691962479b -1680471279c -1664143200d -1650146400c -1633903200d -1617487200c",
    "-1601848800d -1586037600c -1570399200d -1552168800c -1538344800d -1522533600c -1507500000d",
    "-1490565600c -1473631200d -1460930400c -1442786400d -1428876000c -1410732000d -1396216800c",
    "-1379282400d -1364767200c -1348437600d -1333317600c -1315778400d -1301263200c -1284328800d",
    "-1269813600c -1253484000d -1238364000c -1221429600d -1206914400c -1189980000d -1175464800c",
    "-1159135200d -1143410400c -1126476000d -1111960800c -1095631200d -1080511200c -1063576800d",
    "-1049061600c -1032127200d -1017612000c -1001282400d -986162400c -969228000d -950479200c",
    "-942012000d -733356000c -719445600d -699487200c -684972000d -668037600c -654732000d",
    "-636588000c -622072800d -605743200c -590623200d -574293600c -558568800d -542239200c",
    "-527119200d -512604000c -496274400d -481154400c -464220000d -449704800c -432165600d",
    "-417650400c -401320800d -386200800c -369266400d -354751200c -337816800d -323301600c",
    "-306972000d -291852000c -276732000d -257983200c -245282400d -226533600c -213228000d",
    "-195084000c -182383200d -163634400c -150933600d -132184800c -119484000d -100735200c",
    "-88034400d -68680800c -59004000d -37242000e 57722400f 69818400e 89172000f 101268000e",
    "120621600f 132717600e 152071200f 164167200e 183520800f 196221600e 214970400f 227671200e",
    "246420000f 259120800e 278474400f 290570400e 309924000f 322020000e 341373600f 354675600e",
    "372819600f 386125200e 404269200f 417574800e 435718800f 449024400e 467773200f 481078800e",
    "499222800f 512528400e 530672400f 543978000e 562122000f 575427600e 593571600f 606877200e",
    "625626000f 638326800e 657075600f 670381200e 688525200f 701830800e 719974800f 733280400e",
    "751424400f 764730000e 782874000f 796179600e 814323600f"]
  yearly := [⟨1, 3, 25, 3600, 'e'⟩, ⟨1, 10, 25, 3600, 'f'⟩]
  firstYear := 1996
  lastYear := 2099

/-- The history of Africa/Casablanca. -/
def casablanca : History where
  name := "Africa/Casablanca"
  offsets := [⟨-1820, 0⟩, ⟨0, 0⟩, ⟨0, 3600⟩, ⟨3600, 0⟩, ⟨3600, -3600⟩]
  changes := [
    "-1773012580b -956361600c -950490000b -942019200c -761187600b -617241600c -605149200b",
    "-81432000c -71110800b 141264000c 147222000b 199756800c 207702000b 231292800c 244249200b",
    "265507200c 271033200b 448243200d 504918000b 1212278400c 1220223600b 1243814400c 1250809200b",
    "1272758400c 1281222000b 1301788800c 1312066800b 1335664800c 1342749600b 1345428000c",
    "1348970400b 1367114400c 1373162400b 1376100000c 1382839200b 1396144800c 1403920800b",
    "1406944800c 1414288800b 1427594400c 1434247200b 1437271200c 1445738400b 1459044000c",
    "1465092000b 1468116000c 1477792800b 1490493600c 1495332000b 1498960800c 1509242400b",
    "1521943200c 1526176800b 1529200800c 1540692000d 1557021600e 1560045600d 1587261600e",
    "1590890400d 1618106400e 1621130400d 1648346400e 1651975200d 1679191200e 1682215200d",
    "1710036000e 1713060000d 1740276000e 1743904800d 1771120800e 1774144800d 1801965600e",
    "1804989600d 1832205600e 1835834400d 1863050400e 1866074400d 1893290400e 1896919200d",
    "1924135200e 1927159200d 1954980000e 1958004000d 1985220000e 1988848800d 2016064800e",
    "2019088800d 2046304800e 2049933600d 2077149600e 2080778400d 2107994400e 2111018400d",
    "2138234400e 2141863200d 2169079200e 2172103200d 2199924000e 2202948000d 2230164000e",
    "2233792800d 2261008800e 2264032800d 2291248800e 2294877600d 2322093600e 2325722400d",
    "2352938400e 2355962400d 2383178400e 2386807200d 2414023200e 2417047200d 2444868000e",
    "2447892000d 2475108000e 2478736800d 2505952800e 2508976800d 2536192800e 2539821600d",
    "2567037600e 2570666400d 2597882400e 2600906400d 2628122400e 2631751200d 2658967200e",
    "2661991200d 2689812000e 2692836000d 2720052000e 2723680800d 2750896800e 2753920800d",
    "2781136800e 2784765600d 2811981600e 2815610400d 2842826400e 2845850400d 2873066400e",
    "2876695200d 2903911200e 2906935200d 2934756000e 2937780000d 2964996000e 2968624800d",
    "2995840800e 2998864800d 3026080800e 3029709600d 3056925600e 3060554400d 3087770400e",
    "3090794400d 3118010400e 3121639200d 3148855200e 3151879200d 3179700000e 3182724000d",
    "3209940000e 3213568800d 3240784800e 3243808800d 3271024800e 3274653600d 3301869600e",
    "3305498400d 3332714400e 3335738400d 3362954400e 3366583200d 3393799200e 3396823200d",
    "3424644000e 3427668000d 3454884000e 3458512800d 3485728800e 3488752800d 3515968800e",
    "3519597600d 3546813600e 3549837600d 3577658400e 3580682400d 3607898400e 3611527200d",
    "3638743200e 3641767200d 3669588000e 3672612000d 3699828000e 3703456800d"]

/-- The history of Africa/Monrovia. -/
def monrovia : History where
  name := "Africa/Monrovia"
  offsets := [⟨-2588, 0⟩, ⟨-2670, 0⟩, ⟨0, 0⟩]
  changes := [
    "-2776979812a -1604359012b 63593070c"]

/-- The history of Antarctica/Troll. -/
def troll : History where
  name := "Antarctica/Troll"
  offsets := [⟨0, 0⟩, ⟨0, 7200⟩]
  changes := [
    "1108166400a 1111885200b 1130634000a"]
  yearly := [⟨1, 3, 25, 3600, 'b'⟩, ⟨1, 10, 25, 3600, 'a'⟩]
  firstYear := 2006
  lastYear := 2099

/-- The history of Atlantic/Azores. -/
def azores : History where
  name := "Atlantic/Azores"
  offsets := [⟨-6160, 0⟩, ⟨-6872, 0⟩, ⟨-7200, 0⟩, ⟨-7200, 3600⟩, ⟨-7200, 7200⟩, ⟨-3600, 0⟩,
    ⟨-3600, 3600⟩, ⟨0, 0⟩, ⟨0, 3600⟩]
  changes := [
    "-2713904240b -1830376800c -1689548400d -1677794400c -1667426400d -1647730800c -1635890400d",
    "-1616194800c -1604354400d -1584658800c -1572732000d -1553036400c -1541196000d -1521500400c",
    "-1442444400d -1427670000c -1379286000d -1364770800c -1348441200d -1333321200c -1316386800d",
    "-1301266800c -1284332400d -1269817200c -1221433200d -1206918000c -1191193200d -1175468400c",
    "-1127689200d -1111964400c -1096844400d -1080514800c -1063580400d -1049065200c -1033340400d",
    "-1017615600c -1002495600d -986166000c -969231600d -950482800c -942015600d -922489200c",
    "-906937200d -891126000c -877302000d -873676800e -864000000d -857948400c -845852400d",
    "-842832000e -831340800d -825894000c -814402800d -810777600e -799891200d -794444400c",
    "-782953200d -779328000e -768441600d -762994800c -749084400d -733359600c -717624000d",
    "-701899200c -686174400d -670449600c -654724800d -639000000c -623275200d -607550400c",
    "-591825600d -575496000c -559771200d -544046400c -528321600d -512596800c -496872000d",
    "-481147200c -465422400d -449697600c -433972800d -417643200c -401918400d -386193600c",
    "-370468800d -354744000c -339019200d -323294400c -307569600d -291844800c -276120000d",
    "-260395200c -244670400d -228340800c -212616000d -196891200c -181166400d -165441600c",
    "-149716800d -133992000c -118267200d -102542400f 386125200g 401850000f 417574800g 433299600f",
    "449024400g 465354000f 481078800g 496803600f 512528400g 528253200f 543978000g 559702800f",
    "575427600g 591152400f 606877200g 622602000f 638326800g 654656400f 670381200g 686106000f",
    "701830800g 717555600f 725421600h 733280400i 740278800g 749005200f 764730000g 780454800f",
    "796179600g 811904400f"]
  yearly := [⟨1, 3, 25, 3600, 'g'⟩, ⟨1, 10, 25, 3600, 'f'⟩]
  firstYear := 1996
  lastYear := 2099

/-- The histories of zones in Europe, Africa, the Atlantic and the Antarctic. -/
def europeAfrica : List History :=
  [london, lisbon, paris, berlin, madrid, athens, moscow, dublin, casablanca, monrovia, troll,
    azores]

end DatePattern.History
