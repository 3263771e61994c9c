import VarsAdvisor.Charset.Cells

/-!
# Characters of the Korean standard

Codes of two bytes. Codes whose bytes both are at least `0xA1` are those of the
standard; the others are the remaining syllables.
-/

namespace VarsAdvisor.Text

/-- The characters of the code page 949, from `0x8141` on. -/
def koreanRowsFrom8141 : List CellRow := [
  ⟨0x8141, "갂갃갅갆갋갌갍갎갏갘갞갟갡갢갣갥갦갧갨갩갪갫갮갲갳갴\uFFFD\uFFFD\uFFFD\uFFFD\uFFFD\uFFFD갵갶갷갺갻갽갾갿걁걂걃걄걅걆걇걈걉걊" ++
    "걌걎걏걐걑걒걓걕\uFFFD\uFFFD\uFFFD\uFFFD\uFFFD\uFFFD걖걗걙걚걛걝걞걟걠걡걢걣걤걥걦걧걨걩걪걫걬걭걮걯걲걳걵걶걹걻걼걽걾걿겂겇겈겍겎겏겑겒겓겕" ++
    "겖겗겘겙겚겛겞겢겣겤겥겦겧겫겭겮겱겲겳겴겵겶겷겺겾겿곀곂곃곅곆곇곉곊곋곍곎곏곐곑곒곓곔곖곘곙곚곛곜곝곞곟곢곣곥곦곩곫곭곮곲곴곷곸곹곺곻곾곿괁괂괃괅괇괈괉괊괋괎괐괒괓"⟩,
  ⟨0x8241, "괔괕괖괗괙괚괛괝괞괟괡괢괣괤괥괦괧괨괪괫괮괯괰괱괲괳\uFFFD\uFFFD\uFFFD\uFFFD\uFFFD\uFFFD괶괷괹괺괻괽괾괿굀굁굂굃굆굈굊굋굌굍" ++
    "굎굏굑굒굓굕굖굗\uFFFD\uFFFD\uFFFD\uFFFD\uFFFD\uFFFD굙굚굛굜굝굞굟굠굢굤굥굦굧굨굩굪굫굮굯굱굲굷굸굹굺굾궀궃궄궅궆궇궊궋궍궎궏궑궒궓궔궕궖궗" ++
    "궘궙궚궛궞궟궠궡궢궣궥궦궧궨궩궪궫궬궭궮궯궰궱궲궳궴궵궶궸궹궺궻궼궽궾궿귂귃귅귆귇귉귊귋귌귍귎귏귒귔귕귖귗귘귙귚귛귝귞귟귡귢귣귥귦귧귨귩귪귫귬귭귮귯귰귱귲귳귴귵귶귷"⟩,
  ⟨0x8341, "귺귻귽귾긂긃긄긅긆긇긊긌긎긏긐긑긒긓긕긖긗긘긙긚긛긜\uFFFD\uFFFD\uFFFD\uFFFD\uFFFD\uFFFD긝긞긟긠긡긢긣긤긥긦긧긨긩긪긫긬긭긮" ++
    "긯긲긳긵긶긹긻긼\uFFFD\uFFFD\uFFFD\uFFFD\uFFFD\uFFFD긽긾긿깂깄깇깈깉깋깏깑깒깓깕깗깘깙깚깛깞깢깣깤깦깧깪깫깭깮깯깱깲깳깴깵깶깷깺깾깿꺀꺁꺂꺃" ++
    "꺆꺇꺈꺉꺊꺋꺍꺎꺏꺐꺑꺒꺓꺔꺕꺖꺗꺘꺙꺚꺛꺜꺝꺞꺟꺠꺡꺢꺣꺤꺥꺦꺧꺨꺩꺪꺫꺬꺭꺮꺯꺰꺱꺲꺳꺴꺵꺶꺷꺸꺹꺺꺻꺿껁껂껃껅껆껇껈껉껊껋껎껒껓껔껕껖껗껚껛껝껞껟껠껡껢껣껤껥"⟩,
  ⟨0x8441, "껦껧껩껪껬껮껯껰껱껲껳껵껶껷껹껺껻껽껾껿꼀꼁꼂꼃꼄꼅\uFFFD\uFFFD\uFFFD\uFFFD\uFFFD\uFFFD꼆꼉꼊꼋꼌꼎꼏꼑꼒꼓꼔꼕꼖꼗꼘꼙꼚꼛" ++
    "꼜꼝꼞꼟꼠꼡꼢꼣\uFFFD\uFFFD\uFFFD\uFFFD\uFFFD\uFFFD꼤꼥꼦꼧꼨꼩꼪꼫꼮꼯꼱꼳꼵꼶꼷꼸꼹꼺꼻꼾꽀꽄꽅꽆꽇꽊꽋꽌꽍꽎꽏꽑꽒꽓꽔꽕꽖꽗꽘꽙꽚꽛꽞꽟" ++
    "꽠꽡꽢꽣꽦꽧꽨꽩꽪꽫꽬꽭꽮꽯꽰꽱꽲꽳꽴꽵꽶꽷꽸꽺꽻꽼꽽꽾꽿꾁꾂꾃꾅꾆꾇꾉꾊꾋꾌꾍꾎꾏꾒꾓꾔꾖꾗꾘꾙꾚꾛꾝꾞꾟꾠꾡꾢꾣꾤꾥꾦꾧꾨꾩꾪꾫꾬꾭꾮꾯꾰꾱꾲꾳꾴꾵꾶꾷꾺꾻꾽꾾"⟩,
  ⟨0x8541, "꾿꿁꿂꿃꿄꿅꿆꿊꿌꿏꿐꿑꿒꿓꿕꿖꿗꿘꿙꿚꿛꿝꿞꿟꿠꿡\uFFFD\uFFFD\uFFFD\uFFFD\uFFFD\uFFFD꿢꿣꿤꿥꿦꿧꿪꿫꿬꿭꿮꿯꿲꿳꿵꿶꿷꿹" ++
    "꿺꿻꿼꿽꿾꿿뀂뀃\uFFFD\uFFFD\uFFFD\uFFFD\uFFFD\uFFFD뀅뀆뀇뀈뀉뀊뀋뀍뀎뀏뀑뀒뀓뀕뀖뀗뀘뀙뀚뀛뀞뀟뀠뀡뀢뀣뀤뀥뀦뀧뀩뀪뀫뀬뀭뀮뀯뀰뀱뀲뀳뀴뀵뀶" ++
    "뀷뀸뀹뀺뀻뀼뀽뀾뀿끀끁끂끃끆끇끉끋끍끏끐끑끒끖끘끚끛끜끞끟끠끡끢끣끤끥끦끧끨끩끪끫끬끭끮끯끰끱끲끳끴끵끶끷끸끹끺끻끾끿낁낂낃낅낆낇낈낉낊낋낎낐낒낓낔낕낖낗낛낝낞낣낤"⟩,
  ⟨0x8641, "낥낦낧낪낰낲낶낷낹낺낻낽낾낿냀냁냂냃냆냊냋냌냍냎냏냒\uFFFD\uFFFD\uFFFD\uFFFD\uFFFD\uFFFD냓냕냖냗냙냚냛냜냝냞냟냡냢냣냤냦냧냨" ++
    "냩냪냫냬냭냮냯냰\uFFFD\uFFFD\uFFFD\uFFFD\uFFFD\uFFFD냱냲냳냴냵냶냷냸냹냺냻냼냽냾냿넀넁넂넃넄넅넆넇넊넍넎넏넑넔넕넖넗넚넞넟넠넡넢넦넧넩넪넫넭" ++
    "넮넯넰넱넲넳넶넺넻넼넽넾넿녂녃녅녆녇녉녊녋녌녍녎녏녒녓녖녗녙녚녛녝녞녟녡녢녣녤녥녦녧녨녩녪녫녬녭녮녯녰녱녲녳녴녵녶녷녺녻녽녾녿놁놃놄놅놆놇놊놌놎놏놐놑놕놖놗놙놚놛놝"⟩,
  ⟨0x8741, "놞놟놠놡놢놣놤놥놦놧놩놪놫놬놭놮놯놰놱놲놳놴놵놶놷놸\uFFFD\uFFFD\uFFFD\uFFFD\uFFFD\uFFFD놹놺놻놼놽놾놿뇀뇁뇂뇃뇄뇅뇆뇇뇈뇉뇊" ++
    "뇋뇍뇎뇏뇑뇒뇓뇕\uFFFD\uFFFD\uFFFD\uFFFD\uFFFD\uFFFD뇖뇗뇘뇙뇚뇛뇞뇠뇡뇢뇣뇤뇥뇦뇧뇪뇫뇭뇮뇯뇱뇲뇳뇴뇵뇶뇷뇸뇺뇼뇾뇿눀눁눂눃눆눇눉눊눍눎눏눐" ++
    "눑눒눓눖눘눚눛눜눝눞눟눡눢눣눤눥눦눧눨눩눪눫눬눭눮눯눰눱눲눳눵눶눷눸눹눺눻눽눾눿뉀뉁뉂뉃뉄뉅뉆뉇뉈뉉뉊뉋뉌뉍뉎뉏뉐뉑뉒뉓뉔뉕뉖뉗뉙뉚뉛뉝뉞뉟뉡뉢뉣뉤뉥뉦뉧뉪뉫뉬뉭뉮"⟩,
  ⟨0x8841, "뉯뉰뉱뉲뉳뉶뉷뉸뉹뉺뉻뉽뉾뉿늀늁늂늃늆늇늈늊늋늌늍늎\uFFFD\uFFFD\uFFFD\uFFFD\uFFFD\uFFFD늏늒늓늕늖늗늛늜늝늞늟늢늤늧늨늩늫늭" ++
    "늮늯늱늲늳늵늶늷\uFFFD\uFFFD\uFFFD\uFFFD\uFFFD\uFFFD늸늹늺늻늼늽늾늿닀닁닂닃닄닅닆닇닊닋닍닎닏닑닓닔닕닖닗닚닜닞닟닠닡닣닧닩닪닰닱닲닶닼닽닾" ++
    "댂댃댅댆댇댉댊댋댌댍댎댏댒댖댗댘댙댚댛댝댞댟댠댡댢댣댤댥댦댧댨댩댪댫댬댭댮댯댰댱댲댳댴댵댶댷댸댹댺댻댼댽댾댿덀덁덂덃덄덅덆덇덈덉덊덋덌덍덎덏덐덑덒덓덗덙덚덝덠덡덢덣"⟩,
  ⟨0x8941, "덦덨덪덬덭덯덲덳덵덶덷덹덺덻덼덽덾덿뎂뎆뎇뎈뎉뎊뎋뎍\uFFFD\uFFFD\uFFFD\uFFFD\uFFFD\uFFFD뎎뎏뎑뎒뎓뎕뎖뎗뎘뎙뎚뎛뎜뎝뎞뎟뎢뎣" ++
    "뎤뎥뎦뎧뎩뎪뎫뎭\uFFFD\uFFFD\uFFFD\uFFFD\uFFFD\uFFFD뎮뎯뎰뎱뎲뎳뎴뎵뎶뎷뎸뎹뎺뎻뎼뎽뎾뎿돀돁돂돃돆돇돉돊돍돏돑돒돓돖돘돚돜돞돟돡돢돣돥돦돧돩" ++
    "돪돫돬돭돮돯돰돱돲돳돴돵돶돷돸돹돺돻돽돾돿됀됁됂됃됄됅됆됇됈됉됊됋됌됍됎됏됑됒됓됔됕됖됗됙됚됛됝됞됟됡됢됣됤됥됦됧됪됬됭됮됯됰됱됲됳됵됶됷됸됹됺됻됼됽됾됿둀둁둂둃둄"⟩,
  ⟨0x8A41, "둅둆둇둈둉둊둋둌둍둎둏둒둓둕둖둗둙둚둛둜둝둞둟둢둤둦\uFFFD\uFFFD\uFFFD\uFFFD\uFFFD\uFFFD둧둨둩둪둫둭둮둯둰둱둲둳둴둵둶둷둸둹" ++
    "둺둻둼둽둾둿뒁뒂\uFFFD\uFFFD\uFFFD\uFFFD\uFFFD\uFFFD뒃뒄뒅뒆뒇뒉뒊뒋뒌뒍뒎뒏뒐뒑뒒뒓뒔뒕뒖뒗뒘뒙뒚뒛뒜뒞뒟뒠뒡뒢뒣뒥뒦뒧뒩뒪뒫뒭뒮뒯뒰뒱뒲뒳" ++
    "뒴뒶뒸뒺뒻뒼뒽뒾뒿듁듂듃듅듆듇듉듊듋듌듍듎듏듑듒듓듔듖듗듘듙듚듛듞듟듡듢듥듧듨듩듪듫듮듰듲듳듴듵듶듷듹듺듻듼듽듾듿딀딁딂딃딄딅딆딇딈딉딊딋딌딍딎딏딐딑딒딓딖딗딙딚딝"⟩,
  ⟨0x8B41, "딞딟딠딡딢딣딦딫딬딭딮딯딲딳딵딶딷딹딺딻딼딽딾딿땂땆\uFFFD\uFFFD\uFFFD\uFFFD\uFFFD\uFFFD땇땈땉땊땎땏땑땒땓땕땖땗땘땙땚땛땞땢" ++
    "땣땤땥땦땧땨땩땪\uFFFD\uFFFD\uFFFD\uFFFD\uFFFD\uFFFD땫땬땭땮땯땰땱땲땳땴땵땶땷땸땹땺땻땼땽땾땿떀떁떂떃떄떅떆떇떈떉떊떋떌떍떎떏떐떑떒떓떔떕떖" ++
    "떗떘떙떚떛떜떝떞떟떢떣떥떦떧떩떬떭떮떯떲떶떷떸떹떺떾떿뗁뗂뗃뗅뗆뗇뗈뗉뗊뗋뗎뗒뗓뗔뗕뗖뗗뗙뗚뗛뗜뗝뗞뗟뗠뗡뗢뗣뗤뗥뗦뗧뗨뗩뗪뗫뗭뗮뗯뗰뗱뗲뗳뗴뗵뗶뗷뗸뗹뗺뗻뗼뗽뗾뗿"⟩,
  ⟨0x8C41, "똀똁똂똃똄똅똆똇똈똉똊똋똌똍똎똏똒똓똕똖똗똙똚똛똜똝\uFFFD\uFFFD\uFFFD\uFFFD\uFFFD\uFFFD똞똟똠똡똢똣똤똦똧똨똩똪똫똭똮똯똰똱" ++
    "똲똳똵똶똷똸똹똺\uFFFD\uFFFD\uFFFD\uFFFD\uFFFD\uFFFD똻똼똽똾똿뙀뙁뙂뙃뙄뙅뙆뙇뙉뙊뙋뙌뙍뙎뙏뙐뙑뙒뙓뙔뙕뙖뙗뙘뙙뙚뙛뙜뙝뙞뙟뙠뙡뙢뙣뙥뙦뙧뙩" ++
    "뙪뙫뙬뙭뙮뙯뙰뙱뙲뙳뙴뙵뙶뙷뙸뙹뙺뙻뙼뙽뙾뙿뚀뚁뚂뚃뚄뚅뚆뚇뚈뚉뚊뚋뚌뚍뚎뚏뚐뚑뚒뚓뚔뚕뚖뚗뚘뚙뚚뚛뚞뚟뚡뚢뚣뚥뚦뚧뚨뚩뚪뚭뚮뚯뚰뚲뚳뚴뚵뚶뚷뚸뚹뚺뚻뚼뚽뚾뚿뛀뛁뛂"⟩,
  ⟨0x8D41, "뛃뛄뛅뛆뛇뛈뛉뛊뛋뛌뛍뛎뛏뛐뛑뛒뛓뛕뛖뛗뛘뛙뛚뛛뛜뛝\uFFFD\uFFFD\uFFFD\uFFFD\uFFFD\uFFFD뛞뛟뛠뛡뛢뛣뛤뛥뛦뛧뛨뛩뛪뛫뛬뛭뛮뛯" ++
    "뛱뛲뛳뛵뛶뛷뛹뛺\uFFFD\uFFFD\uFFFD\uFFFD\uFFFD\uFFFD뛻뛼뛽뛾뛿뜂뜃뜄뜆뜇뜈뜉뜊뜋뜌뜍뜎뜏뜐뜑뜒뜓뜔뜕뜖뜗뜘뜙뜚뜛뜜뜝뜞뜟뜠뜡뜢뜣뜤뜥뜦뜧뜪뜫" ++
    "뜭뜮뜱뜲뜳뜴뜵뜶뜷뜺뜼뜽뜾뜿띀띁띂띃띅띆띇띉띊띋띍띎띏띐띑띒띓띖띗띘띙띚띛띜띝띞띟띡띢띣띥띦띧띩띪띫띬띭띮띯띲띴띶띷띸띹띺띻띾띿랁랂랃랅랆랇랈랉랊랋랎랓랔랕랚랛랝랞"⟩,
  ⟨0x8E41, "랟랡랢랣랤랥랦랧랪랮랯랰랱랲랳랶랷랹랺랻랼랽랾랿럀럁\uFFFD\uFFFD\uFFFD\uFFFD\uFFFD\uFFFD럂럃럄럅럆럈럊럋럌럍럎럏럐럑럒럓럔럕" ++
    "럖럗럘럙럚럛럜럝\uFFFD\uFFFD\uFFFD\uFFFD\uFFFD\uFFFD럞럟럠럡럢럣럤럥럦럧럨럩럪럫럮럯럱럲럳럵럶럷럸럹럺럻럾렂렃렄렅렆렊렋렍렎렏렑렒렓렔렕렖렗" ++
    "렚렜렞렟렠렡렢렣렦렧렩렪렫렭렮렯렰렱렲렳렶렺렻렼렽렾렿롁롂롃롅롆롇롈롉롊롋롌롍롎롏롐롒롔롕롖롗롘롙롚롛롞롟롡롢롣롥롦롧롨롩롪롫롮롰롲롳롴롵롶롷롹롺롻롽롾롿뢀뢁뢂뢃뢄"⟩,
  ⟨0x8F41, "뢅뢆뢇뢈뢉뢊뢋뢌뢎뢏뢐뢑뢒뢓뢔뢕뢖뢗뢘뢙뢚뢛뢜뢝뢞뢟\uFFFD\uFFFD\uFFFD\uFFFD\uFFFD\uFFFD뢠뢡뢢뢣뢤뢥뢦뢧뢩뢪뢫뢬뢭뢮뢯뢱뢲뢳" ++
    "뢵뢶뢷뢹뢺뢻뢼뢽\uFFFD\uFFFD\uFFFD\uFFFD\uFFFD\uFFFD뢾뢿룂룄룆룇룈룉룊룋룍룎룏룑룒룓룕룖룗룘룙룚룛룜룞룠룢룣룤룥룦룧룪룫룭룮룯룱룲룳룴룵룶룷" ++
    "룺룼룾룿뤀뤁뤂뤃뤅뤆뤇뤈뤉뤊뤋뤌뤍뤎뤏뤐뤑뤒뤓뤔뤕뤖뤗뤙뤚뤛뤜뤝뤞뤟뤡뤢뤣뤤뤥뤦뤧뤨뤩뤪뤫뤬뤭뤮뤯뤰뤱뤲뤳뤴뤵뤶뤷뤸뤹뤺뤻뤾뤿륁륂륃륅륆륇륈륉륊륋륍륎륐륒륓륔륕륖륗"⟩,
  ⟨0x9041, "륚륛륝륞륟륡륢륣륤륥륦륧륪륬륮륯륰륱륲륳륶륷륹륺륻륽\uFFFD\uFFFD\uFFFD\uFFFD\uFFFD\uFFFD륾륿릀릁릂릃릆릈릋릌릏릐릑릒릓릔릕릖" ++
    "릗릘릙릚릛릜릝릞\uFFFD\uFFFD\uFFFD\uFFFD\uFFFD\uFFFD릟릠릡릢릣릤릥릦릧릨릩릪릫릮릯릱릲릳릵릶릷릸릹릺릻릾맀맂맃맄맅맆맇맊맋맍맓맔맕맖맗맚맜맟" ++
    "맠맢맦맧맩맪맫맭맮맯맰맱맲맳맶맻맼맽맾맿먂먃먄먅먆먇먉먊먋먌먍먎먏먐먑먒먓먔먖먗먘먙먚먛먜먝먞먟먠먡먢먣먤먥먦먧먨먩먪먫먬먭먮먯먰먱먲먳먴먵먶먷먺먻먽먾먿멁멃멄멅멆"⟩,
  ⟨0x9141, "멇멊멌멏멐멑멒멖멗멙멚멛멝멞멟멠멡멢멣멦멪멫멬멭멮멯\uFFFD\uFFFD\uFFFD\uFFFD\uFFFD\uFFFD멲멳멵멶멷멹멺멻멼멽멾멿몀몁몂몆몈몉" ++
    "몊몋몍몎몏몐몑몒\uFFFD\uFFFD\uFFFD\uFFFD\uFFFD\uFFFD몓몔몕몖몗몘몙몚몛몜몝몞몟몠몡몢몣몤몥몦몧몪몭몮몯몱몳몴몵몶몷몺몼몾몿뫀뫁뫂뫃뫅뫆뫇뫉뫊" ++
    "뫋뫌뫍뫎뫏뫐뫑뫒뫓뫔뫕뫖뫗뫚뫛뫜뫝뫞뫟뫠뫡뫢뫣뫤뫥뫦뫧뫨뫩뫪뫫뫬뫭뫮뫯뫰뫱뫲뫳뫴뫵뫶뫷뫸뫹뫺뫻뫽뫾뫿묁묂묃묅묆묇묈묉묊묋묌묎묐묒묓묔묕묖묗묙묚묛묝묞묟묡묢묣묤묥묦묧"⟩,
  ⟨0x9241, "묨묪묬묭묮묯묰묱묲묳묷묹묺묿뭀뭁뭂뭃뭆뭈뭊뭋뭌뭎뭑뭒\uFFFD\uFFFD\uFFFD\uFFFD\uFFFD\uFFFD뭓뭕뭖뭗뭙뭚뭛뭜뭝뭞뭟뭠뭢뭤뭥뭦뭧뭨" ++
    "뭩뭪뭫뭭뭮뭯뭰뭱\uFFFD\uFFFD\uFFFD\uFFFD\uFFFD\uFFFD뭲뭳뭴뭵뭶뭷뭸뭹뭺뭻뭼뭽뭾뭿뮀뮁뮂뮃뮄뮅뮆뮇뮉뮊뮋뮍뮎뮏뮑뮒뮓뮔뮕뮖뮗뮘뮙뮚뮛뮜뮝뮞뮟뮠" ++
    "뮡뮢뮣뮥뮦뮧뮩뮪뮫뮭뮮뮯뮰뮱뮲뮳뮵뮶뮸뮹뮺뮻뮼뮽뮾뮿믁믂믃믅믆믇믉믊믋믌믍믎믏믑믒믔믕믖믗믘믙믚믛믜믝믞믟믠믡믢믣믤믥믦믧믨믩믪믫믬믭믮믯믰믱믲믳믴믵믶믷믺믻믽믾밁"⟩,
  ⟨0x9341, "밃밄밅밆밇밊밎밐밒밓밙밚밠밡밢밣밦밨밪밫밬밮밯밲밳밵\uFFFD\uFFFD\uFFFD\uFFFD\uFFFD\uFFFD밶밷밹밺밻밼밽밾밿뱂뱆뱇뱈뱊뱋뱎뱏뱑" ++
    "뱒뱓뱔뱕뱖뱗뱘뱙\uFFFD\uFFFD\uFFFD\uFFFD\uFFFD\uFFFD뱚뱛뱜뱞뱟뱠뱡뱢뱣뱤뱥뱦뱧뱨뱩뱪뱫뱬뱭뱮뱯뱰뱱뱲뱳뱴뱵뱶뱷뱸뱹뱺뱻뱼뱽뱾뱿벀벁벂벃벆벇벉" ++
    "벊벍벏벐벑벒벓벖벘벛벜벝벞벟벢벣벥벦벩벪벫벬벭벮벯벲벶벷벸벹벺벻벾벿볁볂볃볅볆볇볈볉볊볋볌볎볒볓볔볖볗볙볚볛볝볞볟볠볡볢볣볤볥볦볧볨볩볪볫볬볭볮볯볰볱볲볳볷볹볺볻볽"⟩,
  ⟨0x9441, "볾볿봀봁봂봃봆봈봊봋봌봍봎봏봑봒봓봕봖봗봘봙봚봛봜봝\uFFFD\uFFFD\uFFFD\uFFFD\uFFFD\uFFFD봞봟봠봡봢봣봥봦봧봨봩봪봫봭봮봯봰봱" ++
    "봲봳봴봵봶봷봸봹\uFFFD\uFFFD\uFFFD\uFFFD\uFFFD\uFFFD봺봻봼봽봾봿뵁뵂뵃뵄뵅뵆뵇뵊뵋뵍뵎뵏뵑뵒뵓뵔뵕뵖뵗뵚뵛뵜뵝뵞뵟뵠뵡뵢뵣뵥뵦뵧뵩뵪뵫뵬뵭뵮" ++
    "뵯뵰뵱뵲뵳뵴뵵뵶뵷뵸뵹뵺뵻뵼뵽뵾뵿붂붃붅붆붋붌붍붎붏붒붔붖붗붘붛붝붞붟붠붡붢붣붥붦붧붨붩붪붫붬붭붮붯붱붲붳붴붵붶붷붹붺붻붼붽붾붿뷀뷁뷂뷃뷄뷅뷆뷇뷈뷉뷊뷋뷌뷍뷎뷏뷐뷑"⟩,
  ⟨0x9541, "뷒뷓뷖뷗뷙뷚뷛뷝뷞뷟뷠뷡뷢뷣뷤뷥뷦뷧뷨뷪뷫뷬뷭뷮뷯뷱\uFFFD\uFFFD\uFFFD\uFFFD\uFFFD\uFFFD뷲뷳뷵뷶뷷뷹뷺뷻뷼뷽뷾뷿븁븂븄븆븇븈" ++
    "븉븊븋븎븏븑븒븓\uFFFD\uFFFD\uFFFD\uFFFD\uFFFD\uFFFD븕븖븗븘븙븚븛븞븠븡븢븣븤븥븦븧븨븩븪븫븬븭븮븯븰븱븲븳븴븵븶븷븸븹븺븻븼븽븾븿빀빁빂빃" ++
    "빆빇빉빊빋빍빏빐빑빒빓빖빘빜빝빞빟빢빣빥빦빧빩빫빬빭빮빯빲빶빷빸빹빺빾빿뺁뺂뺃뺅뺆뺇뺈뺉뺊뺋뺎뺒뺓뺔뺕뺖뺗뺚뺛뺜뺝뺞뺟뺠뺡뺢뺣뺤뺥뺦뺧뺩뺪뺫뺬뺭뺮뺯뺰뺱뺲뺳뺴뺵뺶뺷"⟩,
  ⟨0x9641, "뺸뺹뺺뺻뺼뺽뺾뺿뻀뻁뻂뻃뻄뻅뻆뻇뻈뻉뻊뻋뻌뻍뻎뻏뻒뻓\uFFFD\uFFFD\uFFFD\uFFFD\uFFFD\uFFFD뻕뻖뻙뻚뻛뻜뻝뻞뻟뻡뻢뻦뻧뻨뻩뻪뻫뻭" ++
    "뻮뻯뻰뻱뻲뻳뻴뻵\uFFFD\uFFFD\uFFFD\uFFFD\uFFFD\uFFFD뻶뻷뻸뻹뻺뻻뻼뻽뻾뻿뼀뼂뼃뼄뼅뼆뼇뼊뼋뼌뼍뼎뼏뼐뼑뼒뼓뼔뼕뼖뼗뼚뼞뼟뼠뼡뼢뼣뼤뼥뼦뼧뼨뼩" ++
    "뼪뼫뼬뼭뼮뼯뼰뼱뼲뼳뼴뼵뼶뼷뼸뼹뼺뼻뼼뼽뼾뼿뽂뽃뽅뽆뽇뽉뽊뽋뽌뽍뽎뽏뽒뽓뽔뽖뽗뽘뽙뽚뽛뽜뽝뽞뽟뽠뽡뽢뽣뽤뽥뽦뽧뽨뽩뽪뽫뽬뽭뽮뽯뽰뽱뽲뽳뽴뽵뽶뽷뽸뽹뽺뽻뽼뽽뽾뽿뾀뾁뾂"⟩,
  ⟨0x9741, "뾃뾄뾅뾆뾇뾈뾉뾊뾋뾌뾍뾎뾏뾐뾑뾒뾓뾕뾖뾗뾘뾙뾚뾛뾜뾝\uFFFD\uFFFD\uFFFD\uFFFD\uFFFD\uFFFD뾞뾟뾠뾡뾢뾣뾤뾥뾦뾧뾨뾩뾪뾫뾬뾭뾮뾯" ++
    "뾱뾲뾳뾴뾵뾶뾷뾸\uFFFD\uFFFD\uFFFD\uFFFD\uFFFD\uFFFD뾹뾺뾻뾼뾽뾾뾿뿀뿁뿂뿃뿄뿆뿇뿈뿉뿊뿋뿎뿏뿑뿒뿓뿕뿖뿗뿘뿙뿚뿛뿝뿞뿠뿢뿣뿤뿥뿦뿧뿨뿩뿪뿫뿬" ++
    "뿭뿮뿯뿰뿱뿲뿳뿴뿵뿶뿷뿸뿹뿺뿻뿼뿽뿾뿿쀀쀁쀂쀃쀄쀅쀆쀇쀈쀉쀊쀋쀌쀍쀎쀏쀐쀑쀒쀓쀔쀕쀖쀗쀘쀙쀚쀛쀜쀝쀞쀟쀠쀡쀢쀣쀤쀥쀦쀧쀨쀩쀪쀫쀬쀭쀮쀯쀰쀱쀲쀳쀴쀵쀶쀷쀸쀹쀺쀻쀽쀾쀿"⟩,
  ⟨0x9841, "쁀쁁쁂쁃쁄쁅쁆쁇쁈쁉쁊쁋쁌쁍쁎쁏쁐쁒쁓쁔쁕쁖쁗쁙쁚쁛\uFFFD\uFFFD\uFFFD\uFFFD\uFFFD\uFFFD쁝쁞쁟쁡쁢쁣쁤쁥쁦쁧쁪쁫쁬쁭쁮쁯쁰쁱" ++
    "쁲쁳쁴쁵쁶쁷쁸쁹\uFFFD\uFFFD\uFFFD\uFFFD\uFFFD\uFFFD쁺쁻쁼쁽쁾쁿삀삁삂삃삄삅삆삇삈삉삊삋삌삍삎삏삒삓삕삖삗삙삚삛삜삝삞삟삢삤삦삧삨삩삪삫삮삱" ++
    "삲삷삸삹삺삻삾샂샃샄샆샇샊샋샍샎샏샑샒샓샔샕샖샗샚샞샟샠샡샢샣샦샧샩샪샫샭샮샯샰샱샲샳샶샸샺샻샼샽샾샿섁섂섃섅섆섇섉섊섋섌섍섎섏섑섒섓섔섖섗섘섙섚섛섡섢섥섨섩섪섫섮"⟩]

/-- The characters of the code page 949, from `0x9941` on. -/
def koreanRowsFrom9941 : List CellRow := [
  ⟨0x9941, "섲섳섴섵섷섺섻섽섾섿셁셂셃셄셅셆셇셊셎셏셐셑셒셓셖셗\uFFFD\uFFFD\uFFFD\uFFFD\uFFFD\uFFFD셙셚셛셝셞셟셠셡셢셣셦셪셫셬셭셮셯셱" ++
    "셲셳셵셶셷셹셺셻\uFFFD\uFFFD\uFFFD\uFFFD\uFFFD\uFFFD셼셽셾셿솀솁솂솃솄솆솇솈솉솊솋솏솑솒솓솕솗솘솙솚솛솞솠솢솣솤솦솧솪솫솭솮솯솱솲솳솴솵솶솷" ++
    "솸솹솺솻솼솾솿쇀쇁쇂쇃쇅쇆쇇쇉쇊쇋쇍쇎쇏쇐쇑쇒쇓쇕쇖쇙쇚쇛쇜쇝쇞쇟쇡쇢쇣쇥쇦쇧쇩쇪쇫쇬쇭쇮쇯쇲쇴쇵쇶쇷쇸쇹쇺쇻쇾쇿숁숂숃숅숆숇숈숉숊숋숎숐숒숓숔숕숖숗숚숛숝숞숡숢숣"⟩,
  ⟨0x9A41, "숤숥숦숧숪숬숮숰숳숵숶숷숸숹숺숻숼숽숾숿쉀쉁쉂쉃쉄쉅\uFFFD\uFFFD\uFFFD\uFFFD\uFFFD\uFFFD쉆쉇쉉쉊쉋쉌쉍쉎쉏쉒쉓쉕쉖쉗쉙쉚쉛쉜" ++
    "쉝쉞쉟쉡쉢쉣쉤쉦\uFFFD\uFFFD\uFFFD\uFFFD\uFFFD\uFFFD쉧쉨쉩쉪쉫쉮쉯쉱쉲쉳쉵쉶쉷쉸쉹쉺쉻쉾슀슂슃슄슅슆슇슊슋슌슍슎슏슑슒슓슔슕슖슗슙슚슜슞슟슠" ++
    "슡슢슣슦슧슩슪슫슮슯슰슱슲슳슶슸슺슻슼슽슾슿싀싁싂싃싄싅싆싇싈싉싊싋싌싍싎싏싐싑싒싓싔싕싖싗싘싙싚싛싞싟싡싢싥싦싧싨싩싪싮싰싲싳싴싵싷싺싽싾싿쌁쌂쌃쌄쌅쌆쌇쌊쌋쌎쌏"⟩,
  ⟨0x9B41, "쌐쌑쌒쌖쌗쌙쌚쌛쌝쌞쌟쌠쌡쌢쌣쌦쌧쌪쌫쌬쌭쌮쌯쌰쌱쌲\uFFFD\uFFFD\uFFFD\uFFFD\uFFFD\uFFFD쌳쌴쌵쌶쌷쌸쌹쌺쌻쌼쌽쌾쌿썀썁썂썃썄" ++
    "썆썇썈썉썊썋썌썍\uFFFD\uFFFD\uFFFD\uFFFD\uFFFD\uFFFD썎썏썐썑썒썓썔썕썖썗썘썙썚썛썜썝썞썟썠썡썢썣썤썥썦썧썪썫썭썮썯썱썳썴썵썶썷썺썻썾썿쎀쎁쎂" ++
    "쎃쎅쎆쎇쎉쎊쎋쎍쎎쎏쎐쎑쎒쎓쎔쎕쎖쎗쎘쎙쎚쎛쎜쎝쎞쎟쎠쎡쎢쎣쎤쎥쎦쎧쎨쎩쎪쎫쎬쎭쎮쎯쎰쎱쎲쎳쎴쎵쎶쎷쎸쎹쎺쎻쎼쎽쎾쎿쏁쏂쏃쏄쏅쏆쏇쏈쏉쏊쏋쏌쏍쏎쏏쏐쏑쏒쏓쏔쏕쏖쏗쏚"⟩,
  ⟨0x9C41, "쏛쏝쏞쏡쏣쏤쏥쏦쏧쏪쏫쏬쏮쏯쏰쏱쏲쏳쏶쏷쏹쏺쏻쏼쏽쏾\uFFFD\uFFFD\uFFFD\uFFFD\uFFFD\uFFFD쏿쐀쐁쐂쐃쐄쐅쐆쐇쐉쐊쐋쐌쐍쐎쐏쐑쐒" ++
    "쐓쐔쐕쐖쐗쐘쐙쐚\uFFFD\uFFFD\uFFFD\uFFFD\uFFFD\uFFFD쐛쐜쐝쐞쐟쐠쐡쐢쐣쐥쐦쐧쐨쐩쐪쐫쐭쐮쐯쐱쐲쐳쐵쐶쐷쐸쐹쐺쐻쐾쐿쑀쑁쑂쑃쑄쑅쑆쑇쑉쑊쑋쑌쑍" ++
    "쑎쑏쑐쑑쑒쑓쑔쑕쑖쑗쑘쑙쑚쑛쑜쑝쑞쑟쑠쑡쑢쑣쑦쑧쑩쑪쑫쑭쑮쑯쑰쑱쑲쑳쑶쑷쑸쑺쑻쑼쑽쑾쑿쒁쒂쒃쒄쒅쒆쒇쒈쒉쒊쒋쒌쒍쒎쒏쒐쒑쒒쒓쒕쒖쒗쒘쒙쒚쒛쒝쒞쒟쒠쒡쒢쒣쒤쒥쒦쒧쒨쒩"⟩,
  ⟨0x9D41, "쒪쒫쒬쒭쒮쒯쒰쒱쒲쒳쒴쒵쒶쒷쒹쒺쒻쒽쒾쒿쓀쓁쓂쓃쓄쓅\uFFFD\uFFFD\uFFFD\uFFFD\uFFFD\uFFFD쓆쓇쓈쓉쓊쓋쓌쓍쓎쓏쓐쓑쓒쓓쓔쓕쓖쓗" ++
    "쓘쓙쓚쓛쓜쓝쓞쓟\uFFFD\uFFFD\uFFFD\uFFFD\uFFFD\uFFFD쓠쓡쓢쓣쓤쓥쓦쓧쓨쓪쓫쓬쓭쓮쓯쓲쓳쓵쓶쓷쓹쓻쓼쓽쓾씂씃씄씅씆씇씈씉씊씋씍씎씏씑씒씓씕씖씗" ++
    "씘씙씚씛씝씞씟씠씡씢씣씤씥씦씧씪씫씭씮씯씱씲씳씴씵씶씷씺씼씾씿앀앁앂앃앆앇앋앏앐앑앒앖앚앛앜앟앢앣앥앦앧앩앪앫앬앭앮앯앲앶앷앸앹앺앻앾앿얁얂얃얅얆얈얉얊얋얎얐얒얓얔"⟩,
  ⟨0x9E41, "얖얙얚얛얝얞얟얡얢얣얤얥얦얧얨얪얫얬얭얮얯얰얱얲얳얶\uFFFD\uFFFD\uFFFD\uFFFD\uFFFD\uFFFD얷얺얿엀엁엂엃엋엍엏엒엓엕엖엗엙엚엛" ++
    "엜엝엞엟엢엤엦엧\uFFFD\uFFFD\uFFFD\uFFFD\uFFFD\uFFFD엨엩엪엫엯엱엲엳엵엸엹엺엻옂옃옄옉옊옋옍옎옏옑옒옓옔옕옖옗옚옝옞옟옠옡옢옣옦옧옩옪옫옯옱" ++
    "옲옶옸옺옼옽옾옿왂왃왅왆왇왉왊왋왌왍왎왏왒왖왗왘왙왚왛왞왟왡왢왣왤왥왦왧왨왩왪왫왭왮왰왲왳왴왵왶왷왺왻왽왾왿욁욂욃욄욅욆욇욊욌욎욏욐욑욒욓욖욗욙욚욛욝욞욟욠욡욢욣욦"⟩,
  ⟨0x9F41, "욨욪욫욬욭욮욯욲욳욵욶욷욻욼욽욾욿웂웄웆웇웈웉웊웋웎\uFFFD\uFFFD\uFFFD\uFFFD\uFFFD\uFFFD웏웑웒웓웕웖웗웘웙웚웛웞웟웢웣웤웥웦" ++
    "웧웪웫웭웮웯웱웲\uFFFD\uFFFD\uFFFD\uFFFD\uFFFD\uFFFD웳웴웵웶웷웺웻웼웾웿윀윁윂윃윆윇윉윊윋윍윎윏윐윑윒윓윖윘윚윛윜윝윞윟윢윣윥윦윧윩윪윫윬윭" ++
    "윮윯윲윴윶윸윹윺윻윾윿읁읂읃읅읆읇읈읉읋읎읐읙읚읛읝읞읟읡읢읣읤읥읦읧읩읪읬읭읮읯읰읱읲읳읶읷읹읺읻읿잀잁잂잆잋잌잍잏잒잓잕잙잛잜잝잞잟잢잧잨잩잪잫잮잯잱잲잳잵잶잷"⟩,
  ⟨0xA041, "잸잹잺잻잾쟂쟃쟄쟅쟆쟇쟊쟋쟍쟏쟑쟒쟓쟔쟕쟖쟗쟙쟚쟛쟜\uFFFD\uFFFD\uFFFD\uFFFD\uFFFD\uFFFD쟞쟟쟠쟡쟢쟣쟥쟦쟧쟩쟪쟫쟭쟮쟯쟰쟱쟲" ++
    "쟳쟴쟵쟶쟷쟸쟹쟺\uFFFD\uFFFD\uFFFD\uFFFD\uFFFD\uFFFD쟻쟼쟽쟾쟿젂젃젅젆젇젉젋젌젍젎젏젒젔젗젘젙젚젛젞젟젡젢젣젥젦젧젨젩젪젫젮젰젲젳젴젵젶젷젹" ++
    "젺젻젽젾젿졁졂졃졄졅졆졇졊졋졎졏졐졑졒졓졕졖졗졘졙졚졛졜졝졞졟졠졡졢졣졤졥졦졧졨졩졪졫졬졭졮졯졲졳졵졶졷졹졻졼졽졾졿좂좄좈좉좊좎좏좐좑좒좓좕좖좗좘좙좚좛좜좞좠좢좣좤"⟩,
  ⟨0xA141, "좥좦좧좩좪좫좬좭좮좯좰좱좲좳좴좵좶좷좸좹좺좻좾좿죀죁\uFFFD\uFFFD\uFFFD\uFFFD\uFFFD\uFFFD죂죃죅죆죇죉죊죋죍죎죏죐죑죒죓죖죘죚" ++
    "죛죜죝죞죟죢죣죥\uFFFD\uFFFD\uFFFD\uFFFD\uFFFD\uFFFD죦죧죨죩죪죫죬죭죮죯죰죱죲죳죴죶죷죸죹죺죻죾죿줁줂줃줇줈줉줊줋줎\u3000、。·‥…¨" ++
    "〃\u00AD―∥＼∼‘’“”〔〕〈〉《》「」『』【】±×÷≠≤≥∞∴°′″℃\u212B￠￡￥♂♀∠⊥⌒∂∇≡≒§※☆★○●◎◇◆□■△▲▽▼→←↑↓↔〓≪≫√∽∝∵∫∬∈∋" ++
    "⊆⊇⊂⊃∪∩∧∨￢"⟩,
  ⟨0xA241, "줐줒줓줔줕줖줗줙줚줛줜줝줞줟줠줡줢줣줤줥줦줧줨줩줪줫\uFFFD\uFFFD\uFFFD\uFFFD\uFFFD\uFFFD줭줮줯줰줱줲줳줵줶줷줸줹줺줻줼줽줾줿" ++
    "쥀쥁쥂쥃쥄쥅쥆쥇\uFFFD\uFFFD\uFFFD\uFFFD\uFFFD\uFFFD쥈쥉쥊쥋쥌쥍쥎쥏쥒쥓쥕쥖쥗쥙쥚쥛쥜쥝쥞쥟쥢쥤쥥쥦쥧쥨쥩쥪쥫쥭쥮쥯⇒⇔∀∃´～ˇ˘˝˚˙¸" ++
    "˛¡¿ː∮∑∏¤℉‰◁◀▷▶♤♠♡♥♧♣⊙◈▣◐◑▒▤▥▨▧▦▩♨☏☎☜☞¶†‡↕↗↙↖↘♭♩♪♬㉿㈜№㏇™㏂㏘℡€®"⟩,
  ⟨0xA341, "쥱쥲쥳쥵쥶쥷쥸쥹쥺쥻쥽쥾쥿즀즁즂즃즄즅즆즇즊즋즍즎즏\uFFFD\uFFFD\uFFFD\uFFFD\uFFFD\uFFFD즑즒즓즔즕즖즗즚즜즞즟즠즡즢즣즤즥즦" ++
    "즧즨즩즪즫즬즭즮\uFFFD\uFFFD\uFFFD\uFFFD\uFFFD\uFFFD즯즰즱즲즳즴즵즶즷즸즹즺즻즼즽즾즿짂짃짅짆짉짋짌짍짎짏짒짔짗짘짛！＂＃＄％＆＇（）＊＋，" ++
    "－．／０１２３４５６７８９：；＜＝＞？＠ＡＢＣＤＥＦＧＨＩＪＫＬＭＮＯＰＱＲＳＴＵＶＷＸＹＺ［￦］＾＿｀ａｂｃｄｅｆｇｈｉｊｋｌｍｎｏｐｑｒｓｔｕｖｗｘｙｚ｛｜｝￣"⟩,
  ⟨0xA441, "짞짟짡짣짥짦짨짩짪짫짮짲짳짴짵짶짷짺짻짽짾짿쨁쨂쨃쨄\uFFFD\uFFFD\uFFFD\uFFFD\uFFFD\uFFFD쨅쨆쨇쨊쨎쨏쨐쨑쨒쨓쨕쨖쨗쨙쨚쨛쨜쨝" ++
    "쨞쨟쨠쨡쨢쨣쨤쨥\uFFFD\uFFFD\uFFFD\uFFFD\uFFFD\uFFFD쨦쨧쨨쨪쨫쨬쨭쨮쨯쨰쨱쨲쨳쨴쨵쨶쨷쨸쨹쨺쨻쨼쨽쨾쨿쩀쩁쩂쩃쩄쩅쩆ㄱㄲㄳㄴㄵㄶㄷㄸㄹㄺㄻㄼ" ++
    "ㄽㄾㄿㅀㅁㅂㅃㅄㅅㅆㅇㅈㅉㅊㅋㅌㅍㅎㅏㅐㅑㅒㅓㅔㅕㅖㅗㅘㅙㅚㅛㅜㅝㅞㅟㅠㅡㅢㅣㅤㅥㅦㅧㅨㅩㅪㅫㅬㅭㅮㅯㅰㅱㅲㅳㅴㅵㅶㅷㅸㅹㅺㅻㅼㅽㅾㅿㆀㆁㆂㆃㆄㆅㆆㆇㆈㆉㆊㆋㆌㆍㆎ"⟩,
  ⟨0xA541, "쩇쩈쩉쩊쩋쩎쩏쩑쩒쩓쩕쩖쩗쩘쩙쩚쩛쩞쩢쩣쩤쩥쩦쩧쩩쩪\uFFFD\uFFFD\uFFFD\uFFFD\uFFFD\uFFFD쩫쩬쩭쩮쩯쩰쩱쩲쩳쩴쩵쩶쩷쩸쩹쩺쩻쩼" ++
    "쩾쩿쪀쪁쪂쪃쪅쪆\uFFFD\uFFFD\uFFFD\uFFFD\uFFFD\uFFFD쪇쪈쪉쪊쪋쪌쪍쪎쪏쪐쪑쪒쪓쪔쪕쪖쪗쪙쪚쪛쪜쪝쪞쪟쪠쪡쪢쪣쪤쪥쪦쪧ⅰⅱⅲⅳⅴⅵⅶⅷⅸⅹ" ++
    "\uFFFD\uFFFD\uFFFD\uFFFD\uFFFDⅠⅡⅢⅣⅤⅥⅦⅧⅨⅩ"⟩,
  ⟨0xA5C1, "ΑΒΓΔΕΖΗΘΙΚΛΜΝΞΟΠΡΣΤΥΦΧΨΩ"⟩,
  ⟨0xA5E1, "αβγδεζηθικλμνξοπρστυφχψω"⟩,
  ⟨0xA641, "쪨쪩쪪쪫쪬쪭쪮쪯쪰쪱쪲쪳쪴쪵쪶쪷쪸쪹쪺쪻쪾쪿쫁쫂쫃쫅\uFFFD\uFFFD\uFFFD\uFFFD\uFFFD\uFFFD쫆쫇쫈쫉쫊쫋쫎쫐쫒쫔쫕쫖쫗쫚쫛쫜쫝쫞" ++
    "쫟쫡쫢쫣쫤쫥쫦쫧\uFFFD\uFFFD\uFFFD\uFFFD\uFFFD\uFFFD쫨쫩쫪쫫쫭쫮쫯쫰쫱쫲쫳쫵쫶쫷쫸쫹쫺쫻쫼쫽쫾쫿쬀쬁쬂쬃쬄쬅쬆쬇쬉쬊─│┌┐┘└├┬┤┴┼━" ++
    "┃┏┓┛┗┣┳┫┻╋┠┯┨┷┿┝┰┥┸╂┒┑┚┙┖┕┎┍┞┟┡┢┦┧┩┪┭┮┱┲┵┶┹┺┽┾╀╁╃╄╅╆╇╈╉╊"⟩,
  ⟨0xA741, "쬋쬌쬍쬎쬏쬑쬒쬓쬕쬖쬗쬙쬚쬛쬜쬝쬞쬟쬢쬣쬤쬥쬦쬧쬨쬩\uFFFD\uFFFD\uFFFD\uFFFD\uFFFD\uFFFD쬪쬫쬬쬭쬮쬯쬰쬱쬲쬳쬴쬵쬶쬷쬸쬹쬺쬻" ++
    "쬼쬽쬾쬿쭀쭂쭃쭄\uFFFD\uFFFD\uFFFD\uFFFD\uFFFD\uFFFD쭅쭆쭇쭊쭋쭍쭎쭏쭑쭒쭓쭔쭕쭖쭗쭚쭛쭜쭞쭟쭠쭡쭢쭣쭥쭦쭧쭨쭩쭪쭫쭬㎕㎖㎗ℓ㎘㏄㎣㎤㎥㎦㎙㎚" ++
    "㎛㎜㎝㎞㎟㎠㎡㎢㏊㎍㎎㎏㏏㎈㎉㏈㎧㎨㎰㎱㎲㎳㎴㎵㎶㎷㎸㎹㎀㎁㎂㎃㎄㎺㎻㎼㎽㎾㎿㎐㎑㎒㎓㎔\u2126㏀㏁㎊㎋㎌㏖㏅㎭㎮㎯㏛㎩㎪㎫㎬㏝㏐㏓㏃㏉㏜㏆"⟩,
  ⟨0xA841, "쭭쭮쭯쭰쭱쭲쭳쭴쭵쭶쭷쭺쭻쭼쭽쭾쭿쮀쮁쮂쮃쮄쮅쮆쮇쮈\uFFFD\uFFFD\uFFFD\uFFFD\uFFFD\uFFFD쮉쮊쮋쮌쮍쮎쮏쮐쮑쮒쮓쮔쮕쮖쮗쮘쮙쮚" ++
    "쮛쮝쮞쮟쮠쮡쮢쮣\uFFFD\uFFFD\uFFFD\uFFFD\uFFFD\uFFFD쮤쮥쮦쮧쮨쮩쮪쮫쮬쮭쮮쮯쮰쮱쮲쮳쮴쮵쮶쮷쮹쮺쮻쮼쮽쮾쮿쯀쯁쯂쯃쯄ÆÐªĦ\uFFFDĲ" ++
    "\uFFFDĿŁØŒºÞŦŊ\uFFFD㉠㉡㉢㉣㉤㉥㉦㉧㉨㉩㉪㉫㉬㉭㉮㉯㉰㉱㉲㉳㉴㉵㉶㉷㉸㉹㉺㉻ⓐⓑⓒⓓⓔⓕⓖⓗⓘⓙⓚⓛⓜⓝⓞⓟⓠⓡⓢⓣⓤⓥⓦⓧⓨⓩ①②③④⑤⑥⑦⑧⑨⑩⑪⑫⑬⑭" ++
    "⑮½⅓⅔¼¾⅛⅜⅝⅞"⟩,
  ⟨0xA941, "쯅쯆쯇쯈쯉쯊쯋쯌쯍쯎쯏쯐쯑쯒쯓쯕쯖쯗쯘쯙쯚쯛쯜쯝쯞쯟\uFFFD\uFFFD\uFFFD\uFFFD\uFFFD\uFFFD쯠쯡쯢쯣쯥쯦쯨쯪쯫쯬쯭쯮쯯쯰쯱쯲쯳쯴" ++
    "쯵쯶쯷쯸쯹쯺쯻쯼\uFFFD\uFFFD\uFFFD\uFFFD\uFFFD\uFFFD쯽쯾쯿찀찁찂찃찄찅찆찇찈찉찊찋찎찏찑찒찓찕찖찗찘찙찚찛찞찟찠찣찤æđðħıĳĸŀłøœß" ++
    "þŧŋŉ㈀㈁㈂㈃㈄㈅㈆㈇㈈㈉㈊㈋㈌㈍㈎㈏㈐㈑㈒㈓㈔㈕㈖㈗㈘㈙㈚㈛⒜⒝⒞⒟⒠⒡⒢⒣⒤⒥⒦⒧⒨⒩⒪⒫⒬⒭⒮⒯⒰⒱⒲⒳⒴⒵⑴⑵⑶⑷⑸⑹⑺⑻⑼⑽⑾⑿⒀⒁⒂¹²³⁴ⁿ₁₂₃₄"⟩,
  ⟨0xAA41, "찥찦찪찫찭찯찱찲찳찴찵찶찷찺찿챀챁챂챃챆챇챉챊챋챍챎\uFFFD\uFFFD\uFFFD\uFFFD\uFFFD\uFFFD챏챐챑챒챓챖챚챛챜챝챞챟챡챢챣챥챧챩" ++
    "챪챫챬챭챮챯챱챲\uFFFD\uFFFD\uFFFD\uFFFD\uFFFD\uFFFD챳챴챶챷챸챹챺챻챼챽챾챿첀첁첂첃첄첅첆첇첈첉첊첋첌첍첎첏첐첑첒첓ぁあぃいぅうぇえぉおかが" ++
    "きぎくぐけげこごさざしじすずせぜそぞただちぢっつづてでとどなにぬねのはばぱひびぴふぶぷへべぺほぼぽまみむめもゃやゅゆょよらりるれろゎわゐゑをん"⟩,
  ⟨0xAB41, "첔첕첖첗첚첛첝첞첟첡첢첣첤첥첦첧첪첮첯첰첱첲첳첶첷첹\uFFFD\uFFFD\uFFFD\uFFFD\uFFFD\uFFFD첺첻첽첾첿쳀쳁쳂쳃쳆쳈쳊쳋쳌쳍쳎쳏쳑" ++
    "쳒쳓쳕쳖쳗쳘쳙쳚\uFFFD\uFFFD\uFFFD\uFFFD\uFFFD\uFFFD쳛쳜쳝쳞쳟쳠쳡쳢쳣쳥쳦쳧쳨쳩쳪쳫쳭쳮쳯쳱쳲쳳쳴쳵쳶쳷쳸쳹쳺쳻쳼쳽ァアィイゥウェエォオカガ" ++
    "キギクグケゲコゴサザシジスズセゼソゾタダチヂッツヅテデトドナニヌネノハバパヒビピフブプヘベペホボポマミムメモャヤュユョヨラリルレロヮワヰヱヲンヴヵヶ"⟩,
  ⟨0xAC41, "쳾쳿촀촂촃촄촅촆촇촊촋촍촎촏촑촒촓촔촕촖촗촚촜촞촟촠\uFFFD\uFFFD\uFFFD\uFFFD\uFFFD\uFFFD촡촢촣촥촦촧촩촪촫촭촮촯촰촱촲촳촴촵" ++
    "촶촷촸촺촻촼촽촾\uFFFD\uFFFD\uFFFD\uFFFD\uFFFD\uFFFD촿쵀쵁쵂쵃쵄쵅쵆쵇쵈쵉쵊쵋쵌쵍쵎쵏쵐쵑쵒쵓쵔쵕쵖쵗쵘쵙쵚쵛쵝쵞쵟АБВГДЕЁЖЗИЙК" ++
    "ЛМНОПРСТУФХЦЧШЩЪЫЬЭЮЯ"⟩,
  ⟨0xACD1, "абвгдеёжзийклмнопрстуфхцчшщъыьэюя"⟩,
  ⟨0xAD41, "쵡쵢쵣쵥쵦쵧쵨쵩쵪쵫쵮쵰쵲쵳쵴쵵쵶쵷쵹쵺쵻쵼쵽쵾쵿춀\uFFFD\uFFFD\uFFFD\uFFFD\uFFFD\uFFFD춁춂춃춄춅춆춇춉춊춋춌춍춎춏춐춑춒춓" ++
    "춖춗춙춚춛춝춞춟\uFFFD\uFFFD\uFFFD\uFFFD\uFFFD\uFFFD춠춡춢춣춦춨춪춫춬춭춮춯춱춲춳춴춵춶춷춸춹춺춻춼춽춾춿췀췁췂췃췅"⟩]

/-- The characters of the code page 949, from `0xAE41` on. -/
def koreanRowsFromAE41 : List CellRow := [
  ⟨0xAE41, "췆췇췈췉췊췋췍췎췏췑췒췓췔췕췖췗췘췙췚췛췜췝췞췟췠췡\uFFFD\uFFFD\uFFFD\uFFFD\uFFFD\uFFFD췢췣췤췥췦췧췩췪췫췭췮췯췱췲췳췴췵췶" ++
    "췷췺췼췾췿츀츁츂\uFFFD\uFFFD\uFFFD\uFFFD\uFFFD\uFFFD츃츅츆츇츉츊츋츍츎츏츐츑츒츓츕츖츗츘츚츛츜츝츞츟츢츣츥츦츧츩츪츫"⟩,
  ⟨0xAF41, "츬츭츮츯츲츴츶츷츸츹츺츻츼츽츾츿칀칁칂칃칄칅칆칇칈칉\uFFFD\uFFFD\uFFFD\uFFFD\uFFFD\uFFFD칊칋칌칍칎칏칐칑칒칓칔칕칖칗칚칛칝칞" ++
    "칢칣칤칥칦칧칪칬\uFFFD\uFFFD\uFFFD\uFFFD\uFFFD\uFFFD칮칯칰칱칲칳칶칷칹칺칻칽칾칿캀캁캂캃캆캈캊캋캌캍캎캏캒캓캕캖캗캙"⟩,
  ⟨0xB041, "캚캛캜캝캞캟캢캦캧캨캩캪캫캮캯캰캱캲캳캴캵캶캷캸캹캺\uFFFD\uFFFD\uFFFD\uFFFD\uFFFD\uFFFD캻캼캽캾캿컀컂컃컄컅컆컇컈컉컊컋컌컍" ++
    "컎컏컐컑컒컓컔컕\uFFFD\uFFFD\uFFFD\uFFFD\uFFFD\uFFFD컖컗컘컙컚컛컜컝컞컟컠컡컢컣컦컧컩컪컭컮컯컰컱컲컳컶컺컻컼컽컾컿가각간갇갈갉갊감갑값갓갔" ++
    "강갖갗같갚갛개객갠갤갬갭갯갰갱갸갹갼걀걋걍걔걘걜거걱건걷걸걺검겁것겄겅겆겉겊겋게겐겔겜겝겟겠겡겨격겪견겯결겸겹겻겼경곁계곈곌곕곗고곡곤곧골곪곬곯곰곱곳공곶과곽관괄괆"⟩,
  ⟨0xB141, "켂켃켅켆켇켉켊켋켌켍켎켏켒켔켖켗켘켙켚켛켝켞켟켡켢켣\uFFFD\uFFFD\uFFFD\uFFFD\uFFFD\uFFFD켥켦켧켨켩켪켫켮켲켳켴켵켶켷켹켺켻켼" ++
    "켽켾켿콀콁콂콃콄\uFFFD\uFFFD\uFFFD\uFFFD\uFFFD\uFFFD콅콆콇콈콉콊콋콌콍콎콏콐콑콒콓콖콗콙콚콛콝콞콟콠콡콢콣콦콨콪콫콬괌괍괏광괘괜괠괩괬괭괴괵" ++
    "괸괼굄굅굇굉교굔굘굡굣구국군굳굴굵굶굻굼굽굿궁궂궈궉권궐궜궝궤궷귀귁귄귈귐귑귓규균귤그극근귿글긁금급긋긍긔기긱긴긷길긺김깁깃깅깆깊까깍깎깐깔깖깜깝깟깠깡깥깨깩깬깰깸"⟩,
  ⟨0xB241, "콭콮콯콲콳콵콶콷콹콺콻콼콽콾콿쾁쾂쾃쾄쾆쾇쾈쾉쾊쾋쾍\uFFFD\uFFFD\uFFFD\uFFFD\uFFFD\uFFFD쾎쾏쾐쾑쾒쾓쾔쾕쾖쾗쾘쾙쾚쾛쾜쾝쾞쾟" ++
    "쾠쾢쾣쾤쾥쾦쾧쾩\uFFFD\uFFFD\uFFFD\uFFFD\uFFFD\uFFFD쾪쾫쾬쾭쾮쾯쾱쾲쾳쾴쾵쾶쾷쾸쾹쾺쾻쾼쾽쾾쾿쿀쿁쿂쿃쿅쿆쿇쿈쿉쿊쿋깹깻깼깽꺄꺅꺌꺼꺽꺾껀껄" ++
    "껌껍껏껐껑께껙껜껨껫껭껴껸껼꼇꼈꼍꼐꼬꼭꼰꼲꼴꼼꼽꼿꽁꽂꽃꽈꽉꽐꽜꽝꽤꽥꽹꾀꾄꾈꾐꾑꾕꾜꾸꾹꾼꿀꿇꿈꿉꿋꿍꿎꿔꿜꿨꿩꿰꿱꿴꿸뀀뀁뀄뀌뀐뀔뀜뀝뀨끄끅끈끊끌끎끓끔끕끗끙"⟩,
  ⟨0xB341, "쿌쿍쿎쿏쿐쿑쿒쿓쿔쿕쿖쿗쿘쿙쿚쿛쿜쿝쿞쿟쿢쿣쿥쿦쿧쿩\uFFFD\uFFFD\uFFFD\uFFFD\uFFFD\uFFFD쿪쿫쿬쿭쿮쿯쿲쿴쿶쿷쿸쿹쿺쿻쿽쿾쿿퀁" ++
    "퀂퀃퀅퀆퀇퀈퀉퀊\uFFFD\uFFFD\uFFFD\uFFFD\uFFFD\uFFFD퀋퀌퀍퀎퀏퀐퀒퀓퀔퀕퀖퀗퀙퀚퀛퀜퀝퀞퀟퀠퀡퀢퀣퀤퀥퀦퀧퀨퀩퀪퀫퀬끝끼끽낀낄낌낍낏낑나낙낚" ++
    "난낟날낡낢남납낫났낭낮낯낱낳내낵낸낼냄냅냇냈냉냐냑냔냘냠냥너넉넋넌널넒넓넘넙넛넜넝넣네넥넨넬넴넵넷넸넹녀녁년녈념녑녔녕녘녜녠노녹논놀놂놈놉놋농높놓놔놘놜놨뇌뇐뇔뇜뇝"⟩,
  ⟨0xB441, "퀮퀯퀰퀱퀲퀳퀶퀷퀹퀺퀻퀽퀾퀿큀큁큂큃큆큈큊큋큌큍큎큏\uFFFD\uFFFD\uFFFD\uFFFD\uFFFD\uFFFD큑큒큓큕큖큗큙큚큛큜큝큞큟큡큢큣큤큥" ++
    "큦큧큨큩큪큫큮큯\uFFFD\uFFFD\uFFFD\uFFFD\uFFFD\uFFFD큱큲큳큵큶큷큸큹큺큻큾큿킀킂킃킄킅킆킇킈킉킊킋킌킍킎킏킐킑킒킓킔뇟뇨뇩뇬뇰뇹뇻뇽누눅눈눋" ++
    "눌눔눕눗눙눠눴눼뉘뉜뉠뉨뉩뉴뉵뉼늄늅늉느늑는늘늙늚늠늡늣능늦늪늬늰늴니닉닌닐닒님닙닛닝닢다닥닦단닫달닭닮닯닳담답닷닸당닺닻닿대댁댄댈댐댑댓댔댕댜더덕덖던덛덜덞덟덤덥"⟩,
  ⟨0xB541, "킕킖킗킘킙킚킛킜킝킞킟킠킡킢킣킦킧킩킪킫킭킮킯킰킱킲\uFFFD\uFFFD\uFFFD\uFFFD\uFFFD\uFFFD킳킶킸킺킻킼킽킾킿탂탃탅탆탇탊탋탌탍" ++
    "탎탏탒탖탗탘탙탚\uFFFD\uFFFD\uFFFD\uFFFD\uFFFD\uFFFD탛탞탟탡탢탣탥탦탧탨탩탪탫탮탲탳탴탵탶탷탹탺탻탼탽탾탿턀턁턂턃턄덧덩덫덮데덱덴델뎀뎁뎃뎄" ++
    "뎅뎌뎐뎔뎠뎡뎨뎬도독돈돋돌돎돐돔돕돗동돛돝돠돤돨돼됐되된될됨됩됫됴두둑둔둘둠둡둣둥둬뒀뒈뒝뒤뒨뒬뒵뒷뒹듀듄듈듐듕드득든듣들듦듬듭듯등듸디딕딘딛딜딤딥딧딨딩딪따딱딴딸"⟩,
  ⟨0xB641, "턅턆턇턈턉턊턋턌턎턏턐턑턒턓턔턕턖턗턘턙턚턛턜턝턞턟\uFFFD\uFFFD\uFFFD\uFFFD\uFFFD\uFFFD턠턡턢턣턤턥턦턧턨턩턪턫턬턭턮턯턲턳" ++
    "턵턶턷턹턻턼턽턾\uFFFD\uFFFD\uFFFD\uFFFD\uFFFD\uFFFD턿텂텆텇텈텉텊텋텎텏텑텒텓텕텖텗텘텙텚텛텞텠텢텣텤텥텦텧텩텪텫텭땀땁땃땄땅땋때땍땐땔땜땝" ++
    "땟땠땡떠떡떤떨떪떫떰떱떳떴떵떻떼떽뗀뗄뗌뗍뗏뗐뗑뗘뗬또똑똔똘똥똬똴뙈뙤뙨뚜뚝뚠뚤뚫뚬뚱뛔뛰뛴뛸뜀뜁뜅뜨뜩뜬뜯뜰뜸뜹뜻띄띈띌띔띕띠띤띨띰띱띳띵라락란랄람랍랏랐랑랒랖랗"⟩,
  ⟨0xB741, "텮텯텰텱텲텳텴텵텶텷텸텹텺텻텽텾텿톀톁톂톃톅톆톇톉톊\uFFFD\uFFFD\uFFFD\uFFFD\uFFFD\uFFFD톋톌톍톎톏톐톑톒톓톔톕톖톗톘톙톚톛톜" ++
    "톝톞톟톢톣톥톦톧\uFFFD\uFFFD\uFFFD\uFFFD\uFFFD\uFFFD톩톪톫톬톭톮톯톲톴톶톷톸톹톻톽톾톿퇁퇂퇃퇄퇅퇆퇇퇈퇉퇊퇋퇌퇍퇎퇏래랙랜랠램랩랫랬랭랴략랸" ++
    "럇량러럭런럴럼럽럿렀렁렇레렉렌렐렘렙렛렝려력련렬렴렵렷렸령례롄롑롓로록론롤롬롭롯롱롸롼뢍뢨뢰뢴뢸룀룁룃룅료룐룔룝룟룡루룩룬룰룸룹룻룽뤄뤘뤠뤼뤽륀륄륌륏륑류륙륜률륨륩"⟩,
  ⟨0xB841, "퇐퇑퇒퇓퇔퇕퇖퇗퇙퇚퇛퇜퇝퇞퇟퇠퇡퇢퇣퇤퇥퇦퇧퇨퇩퇪\uFFFD\uFFFD\uFFFD\uFFFD\uFFFD\uFFFD퇫퇬퇭퇮퇯퇰퇱퇲퇳퇵퇶퇷퇹퇺퇻퇼퇽퇾" ++
    "퇿툀툁툂툃툄툅툆\uFFFD\uFFFD\uFFFD\uFFFD\uFFFD\uFFFD툈툊툋툌툍툎툏툑툒툓툔툕툖툗툘툙툚툛툜툝툞툟툠툡툢툣툤툥툦툧툨툩륫륭르륵른를름릅릇릉릊릍" ++
    "릎리릭린릴림립릿링마막만많맏말맑맒맘맙맛망맞맡맣매맥맨맬맴맵맷맸맹맺먀먁먈먕머먹먼멀멂멈멉멋멍멎멓메멕멘멜멤멥멧멨멩며멱면멸몃몄명몇몌모목몫몬몰몲몸몹못몽뫄뫈뫘뫙뫼"⟩,
  ⟨0xB941, "툪툫툮툯툱툲툳툵툶툷툸툹툺툻툾퉀퉂퉃퉄퉅퉆퉇퉉퉊퉋퉌\uFFFD\uFFFD\uFFFD\uFFFD\uFFFD\uFFFD퉍퉎퉏퉐퉑퉒퉓퉔퉕퉖퉗퉘퉙퉚퉛퉝퉞퉟" ++
    "퉠퉡퉢퉣퉥퉦퉧퉨\uFFFD\uFFFD\uFFFD\uFFFD\uFFFD\uFFFD퉩퉪퉫퉬퉭퉮퉯퉰퉱퉲퉳퉴퉵퉶퉷퉸퉹퉺퉻퉼퉽퉾퉿튂튃튅튆튇튉튊튋튌묀묄묍묏묑묘묜묠묩묫무묵" ++
    "묶문묻물묽묾뭄뭅뭇뭉뭍뭏뭐뭔뭘뭡뭣뭬뮈뮌뮐뮤뮨뮬뮴뮷므믄믈믐믓미믹민믿밀밂밈밉밋밌밍및밑바박밖밗반받발밝밞밟밤밥밧방밭배백밴밸뱀뱁뱃뱄뱅뱉뱌뱍뱐뱝버벅번벋벌벎범법벗"⟩,
  ⟨0xBA41, "튍튎튏튒튓튔튖튗튘튙튚튛튝튞튟튡튢튣튥튦튧튨튩튪튫튭\uFFFD\uFFFD\uFFFD\uFFFD\uFFFD\uFFFD튮튯튰튲튳튴튵튶튷튺튻튽튾틁틃틄틅틆" ++
    "틇틊틌틍틎틏틐틑\uFFFD\uFFFD\uFFFD\uFFFD\uFFFD\uFFFD틒틓틕틖틗틙틚틛틝틞틟틠틡틢틣틦틧틨틩틪틫틬틭틮틯틲틳틵틶틷틹틺벙벚베벡벤벧벨벰벱벳벴벵" ++
    "벼벽변별볍볏볐병볕볘볜보복볶본볼봄봅봇봉봐봔봤봬뵀뵈뵉뵌뵐뵘뵙뵤뵨부북분붇불붉붊붐붑붓붕붙붚붜붤붰붸뷔뷕뷘뷜뷩뷰뷴뷸븀븃븅브븍븐블븜븝븟비빅빈빌빎빔빕빗빙빚빛빠빡빤"⟩,
  ⟨0xBB41, "틻틼틽틾틿팂팄팆팇팈팉팊팋팏팑팒팓팕팗팘팙팚팛팞팢팣\uFFFD\uFFFD\uFFFD\uFFFD\uFFFD\uFFFD팤팦팧팪팫팭팮팯팱팲팳팴팵팶팷팺팾팿" ++
    "퍀퍁퍂퍃퍆퍇퍈퍉\uFFFD\uFFFD\uFFFD\uFFFD\uFFFD\uFFFD퍊퍋퍌퍍퍎퍏퍐퍑퍒퍓퍔퍕퍖퍗퍘퍙퍚퍛퍜퍝퍞퍟퍠퍡퍢퍣퍤퍥퍦퍧퍨퍩빨빪빰빱빳빴빵빻빼빽뺀뺄" ++
    "뺌뺍뺏뺐뺑뺘뺙뺨뻐뻑뻔뻗뻘뻠뻣뻤뻥뻬뼁뼈뼉뼘뼙뼛뼜뼝뽀뽁뽄뽈뽐뽑뽕뾔뾰뿅뿌뿍뿐뿔뿜뿟뿡쀼쁑쁘쁜쁠쁨쁩삐삑삔삘삠삡삣삥사삭삯산삳살삵삶삼삽삿샀상샅새색샌샐샘샙샛샜생샤"⟩,
  ⟨0xBC41, "퍪퍫퍬퍭퍮퍯퍰퍱퍲퍳퍴퍵퍶퍷퍸퍹퍺퍻퍾퍿펁펂펃펅펆펇\uFFFD\uFFFD\uFFFD\uFFFD\uFFFD\uFFFD펈펉펊펋펎펒펓펔펕펖펗펚펛펝펞펟펡펢" ++
    "펣펤펥펦펧펪펬펮\uFFFD\uFFFD\uFFFD\uFFFD\uFFFD\uFFFD펯펰펱펲펳펵펶펷펹펺펻펽펾펿폀폁폂폃폆폇폊폋폌폍폎폏폑폒폓폔폕폖샥샨샬샴샵샷샹섀섄섈섐섕" ++
    "서석섞섟선섣설섦섧섬섭섯섰성섶세섹센셀셈셉셋셌셍셔셕션셜셤셥셧셨셩셰셴셸솅소속솎손솔솖솜솝솟송솥솨솩솬솰솽쇄쇈쇌쇔쇗쇘쇠쇤쇨쇰쇱쇳쇼쇽숀숄숌숍숏숑수숙순숟술숨숩숫숭"⟩,
  ⟨0xBD41, "폗폙폚폛폜폝폞폟폠폢폤폥폦폧폨폩폪폫폮폯폱폲폳폵폶폷\uFFFD\uFFFD\uFFFD\uFFFD\uFFFD\uFFFD폸폹폺폻폾퐀퐂퐃퐄퐅퐆퐇퐉퐊퐋퐌퐍퐎" ++
    "퐏퐐퐑퐒퐓퐔퐕퐖\uFFFD\uFFFD\uFFFD\uFFFD\uFFFD\uFFFD퐗퐘퐙퐚퐛퐜퐞퐟퐠퐡퐢퐣퐤퐥퐦퐧퐨퐩퐪퐫퐬퐭퐮퐯퐰퐱퐲퐳퐴퐵퐶퐷숯숱숲숴쉈쉐쉑쉔쉘쉠쉥쉬" ++
    "쉭쉰쉴쉼쉽쉿슁슈슉슐슘슛슝스슥슨슬슭슴습슷승시식신싣실싫심십싯싱싶싸싹싻싼쌀쌈쌉쌌쌍쌓쌔쌕쌘쌜쌤쌥쌨쌩썅써썩썬썰썲썸썹썼썽쎄쎈쎌쏀쏘쏙쏜쏟쏠쏢쏨쏩쏭쏴쏵쏸쐈쐐쐤쐬쐰"⟩,
  ⟨0xBE41, "퐸퐹퐺퐻퐼퐽퐾퐿푁푂푃푅푆푇푈푉푊푋푌푍푎푏푐푑푒푓\uFFFD\uFFFD\uFFFD\uFFFD\uFFFD\uFFFD푔푕푖푗푘푙푚푛푝푞푟푡푢푣푥푦푧푨" ++
    "푩푪푫푬푮푰푱푲\uFFFD\uFFFD\uFFFD\uFFFD\uFFFD\uFFFD푳푴푵푶푷푺푻푽푾풁풃풄풅풆풇풊풌풎풏풐풑풒풓풕풖풗풘풙풚풛풜풝쐴쐼쐽쑈쑤쑥쑨쑬쑴쑵쑹쒀" ++
    "쒔쒜쒸쒼쓩쓰쓱쓴쓸쓺쓿씀씁씌씐씔씜씨씩씬씰씸씹씻씽아악안앉않알앍앎앓암압앗았앙앝앞애액앤앨앰앱앳앴앵야약얀얄얇얌얍얏양얕얗얘얜얠얩어억언얹얻얼얽얾엄업없엇었엉엊엌엎"⟩,
  ⟨0xBF41, "풞풟풠풡풢풣풤풥풦풧풨풪풫풬풭풮풯풰풱풲풳풴풵풶풷풸\uFFFD\uFFFD\uFFFD\uFFFD\uFFFD\uFFFD풹풺풻풼풽풾풿퓀퓁퓂퓃퓄퓅퓆퓇퓈퓉퓊" ++
    "퓋퓍퓎퓏퓑퓒퓓퓕\uFFFD\uFFFD\uFFFD\uFFFD\uFFFD\uFFFD퓖퓗퓘퓙퓚퓛퓝퓞퓠퓡퓢퓣퓤퓥퓦퓧퓩퓪퓫퓭퓮퓯퓱퓲퓳퓴퓵퓶퓷퓹퓺퓼에엑엔엘엠엡엣엥여역엮연" ++
    "열엶엷염엽엾엿였영옅옆옇예옌옐옘옙옛옜오옥온올옭옮옰옳옴옵옷옹옻와왁완왈왐왑왓왔왕왜왝왠왬왯왱외왹왼욀욈욉욋욍요욕욘욜욤욥욧용우욱운울욹욺움웁웃웅워웍원월웜웝웠웡웨"⟩,
  ⟨0xC041, "퓾퓿픀픁픂픃픅픆픇픉픊픋픍픎픏픐픑픒픓픖픘픙픚픛픜픝\uFFFD\uFFFD\uFFFD\uFFFD\uFFFD\uFFFD픞픟픠픡픢픣픤픥픦픧픨픩픪픫픬픭픮픯" ++
    "픰픱픲픳픴픵픶픷\uFFFD\uFFFD\uFFFD\uFFFD\uFFFD\uFFFD픸픹픺픻픾픿핁핂핃핅핆핇핈핉핊핋핎핐핒핓핔핕핖핗핚핛핝핞핟핡핢핣웩웬웰웸웹웽위윅윈윌윔윕" ++
    "윗윙유육윤율윰윱윳융윷으윽은을읊음읍읏응읒읓읔읕읖읗의읜읠읨읫이익인일읽읾잃임입잇있잉잊잎자작잔잖잗잘잚잠잡잣잤장잦재잭잰잴잼잽잿쟀쟁쟈쟉쟌쟎쟐쟘쟝쟤쟨쟬저적전절젊"⟩,
  ⟨0xC141, "핤핦핧핪핬핮핯핰핱핲핳핶핷핹핺핻핽핾핿햀햁햂햃햆햊햋\uFFFD\uFFFD\uFFFD\uFFFD\uFFFD\uFFFD햌햍햎햏햑햒햓햔햕햖햗햘햙햚햛햜햝햞" ++
    "햟햠햡햢햣햤햦햧\uFFFD\uFFFD\uFFFD\uFFFD\uFFFD\uFFFD햨햩햪햫햬햭햮햯햰햱햲햳햴햵햶햷햸햹햺햻햼햽햾햿헀헁헂헃헄헅헆헇점접젓정젖제젝젠젤젬젭젯" ++
    "젱져젼졀졈졉졌졍졔조족존졸졺좀좁좃종좆좇좋좌좍좔좝좟좡좨좼좽죄죈죌죔죕죗죙죠죡죤죵주죽준줄줅줆줌줍줏중줘줬줴쥐쥑쥔쥘쥠쥡쥣쥬쥰쥴쥼즈즉즌즐즘즙즛증지직진짇질짊짐집짓"⟩,
  ⟨0xC241, "헊헋헍헎헏헑헓헔헕헖헗헚헜헞헟헠헡헢헣헦헧헩헪헫헭헮\uFFFD\uFFFD\uFFFD\uFFFD\uFFFD\uFFFD헯헰헱헲헳헶헸헺헻헼헽헾헿혂혃혅혆혇" ++
    "혉혊혋혌혍혎혏혒\uFFFD\uFFFD\uFFFD\uFFFD\uFFFD\uFFFD혖혗혘혙혚혛혝혞혟혡혢혣혥혦혧혨혩혪혫혬혮혯혰혱혲혳혴혵혶혷혺혻징짖짙짚짜짝짠짢짤짧짬짭" ++
    "짯짰짱째짹짼쨀쨈쨉쨋쨌쨍쨔쨘쨩쩌쩍쩐쩔쩜쩝쩟쩠쩡쩨쩽쪄쪘쪼쪽쫀쫄쫌쫍쫏쫑쫓쫘쫙쫠쫬쫴쬈쬐쬔쬘쬠쬡쭁쭈쭉쭌쭐쭘쭙쭝쭤쭸쭹쮜쮸쯔쯤쯧쯩찌찍찐찔찜찝찡찢찧차착찬찮찰참찹찻"⟩,
  ⟨0xC341, "혽혾혿홁홂홃홄홆홇홊홌홎홏홐홒홓홖홗홙홚홛홝홞홟홠홡\uFFFD\uFFFD\uFFFD\uFFFD\uFFFD\uFFFD홢홣홤홥홦홨홪홫홬홭홮홯홲홳홵홶홷홸" ++
    "홹홺홻홼홽홾홿횀\uFFFD\uFFFD\uFFFD\uFFFD\uFFFD\uFFFD횁횂횄횆횇횈횉횊횋횎횏횑횒횓횕횖횗횘횙횚횛횜횞횠횢횣횤횥횦횧횩횪찼창찾채책챈챌챔챕챗챘챙" ++
    "챠챤챦챨챰챵처척천철첨첩첫첬청체첵첸첼쳄쳅쳇쳉쳐쳔쳤쳬쳰촁초촉촌촐촘촙촛총촤촨촬촹최쵠쵤쵬쵭쵯쵱쵸춈추축춘출춤춥춧충춰췄췌췐취췬췰췸췹췻췽츄츈츌츔츙츠측츤츨츰츱츳층"⟩,
  ⟨0xC441, "횫횭횮횯횱횲횳횴횵횶횷횸횺횼횽횾횿훀훁훂훃훆훇훉훊훋\uFFFD\uFFFD\uFFFD\uFFFD\uFFFD\uFFFD훍훎훏훐훒훓훕훖훘훚훛훜훝훞훟훡훢훣" ++
    "훥훦훧훩훪훫훬훭\uFFFD\uFFFD\uFFFD\uFFFD\uFFFD\uFFFD훮훯훱훲훳훴훶훷훸훹훺훻훾훿휁휂휃휅휆휇휈휉휊휋휌휍휎휏휐휒휓휔치칙친칟칠칡침칩칫칭카칵" ++
    "칸칼캄캅캇캉캐캑캔캘캠캡캣캤캥캬캭컁커컥컨컫컬컴컵컷컸컹케켁켄켈켐켑켓켕켜켠켤켬켭켯켰켱켸코콕콘콜콤콥콧콩콰콱콴콸쾀쾅쾌쾡쾨쾰쿄쿠쿡쿤쿨쿰쿱쿳쿵쿼퀀퀄퀑퀘퀭퀴퀵퀸퀼"⟩,
  ⟨0xC541, "휕휖휗휚휛휝휞휟휡휢휣휤휥휦휧휪휬휮휯휰휱휲휳휶휷휹\uFFFD\uFFFD\uFFFD\uFFFD\uFFFD\uFFFD휺휻휽휾휿흀흁흂흃흅흆흈흊흋흌흍흎흏" ++
    "흒흓흕흚흛흜흝흞\uFFFD\uFFFD\uFFFD\uFFFD\uFFFD\uFFFD흟흢흤흦흧흨흪흫흭흮흯흱흲흳흵흶흷흸흹흺흻흾흿힀힂힃힄힅힆힇힊힋큄큅큇큉큐큔큘큠크큭큰클" ++
    "큼큽킁키킥킨킬킴킵킷킹타탁탄탈탉탐탑탓탔탕태택탠탤탬탭탯탰탱탸턍터턱턴털턺텀텁텃텄텅테텍텐텔템텝텟텡텨텬텼톄톈토톡톤톨톰톱톳통톺톼퇀퇘퇴퇸툇툉툐투툭툰툴툼툽툿퉁퉈퉜"⟩]

/-- The characters of the code page 949, from `0xC641` on. -/
def koreanRowsFromC641 : List CellRow := [
  ⟨0xC641, "힍힎힏힑힒힓힔힕힖힗힚힜힞힟힠힡힢힣"⟩,
  ⟨0xC6A1, "퉤튀튁튄튈튐튑튕튜튠튤튬튱트특튼튿틀틂틈틉틋틔틘틜틤틥티틱틴틸팀팁팃팅파팍팎판팔팖팜팝팟팠팡팥패팩팬팰팸팹팻팼팽퍄퍅퍼퍽펀펄펌펍펏펐펑페펙펜펠펨펩펫펭펴편펼폄폅" ++
    "폈평폐폘폡폣포폭폰폴폼폽폿퐁"⟩,
  ⟨0xC7A1, "퐈퐝푀푄표푠푤푭푯푸푹푼푿풀풂품풉풋풍풔풩퓌퓐퓔퓜퓟퓨퓬퓰퓸퓻퓽프픈플픔픕픗피픽핀필핌핍핏핑하학한할핥함합핫항해핵핸핼햄햅햇했행햐향허헉헌헐헒험헙헛헝헤헥헨헬헴" ++
    "헵헷헹혀혁현혈혐협혓혔형혜혠"⟩,
  ⟨0xC8A1, "혤혭호혹혼홀홅홈홉홋홍홑화확환활홧황홰홱홴횃횅회획횐횔횝횟횡효횬횰횹횻후훅훈훌훑훔훗훙훠훤훨훰훵훼훽휀휄휑휘휙휜휠휨휩휫휭휴휵휸휼흄흇흉흐흑흔흖흗흘흙흠흡흣흥흩" ++
    "희흰흴흼흽힁히힉힌힐힘힙힛힝"⟩,
  ⟨0xCAA1, "伽佳假價加可呵哥嘉嫁家暇架枷柯歌珂痂稼苛茄街袈訶賈跏軻迦駕刻却各恪慤殼珏脚覺角閣侃刊墾奸姦干幹懇揀杆柬桿澗癎看磵稈竿簡肝艮艱諫間乫喝曷渴碣竭葛褐蝎鞨勘坎堪嵌感憾" ++
    "戡敢柑橄減甘疳監瞰紺邯鑑鑒龕"⟩,
  ⟨0xCBA1, "匣岬甲胛鉀閘剛堈姜岡崗康强彊慷江畺疆糠絳綱羌腔舡薑襁講鋼降鱇介价個凱塏愷愾慨改槪漑疥皆盖箇芥蓋\uF900鎧開喀客坑\uF901粳羹醵倨去居巨拒据據擧渠炬祛距踞" ++
    "\uF902遽鉅鋸乾件健巾建愆楗腱虔蹇鍵騫乞傑杰桀儉劍劒檢"⟩,
  ⟨0xCCA1, "瞼鈐黔劫怯迲偈憩揭擊格檄激膈覡隔堅牽犬甄絹繭肩見譴遣鵑抉決潔結缺訣兼慊箝謙鉗鎌京俓倞傾儆勁勍卿坰境庚徑慶憬擎敬景暻更梗涇炅烱璟璥瓊痙硬磬竟競絅經耕耿脛莖警輕逕鏡" ++
    "頃頸驚鯨係啓堺契季屆悸戒桂械"⟩,
  ⟨0xCDA1, "棨溪界癸磎稽系繫繼計誡谿階鷄古叩告呱固姑孤尻庫拷攷故敲暠枯槁沽痼皐睾稿羔考股膏苦苽菰藁蠱袴誥\uF903辜錮雇顧高鼓哭斛曲梏穀谷鵠困坤崑昆梱棍滾琨袞鯤汨" ++
    "\uF904骨供公共功孔工恐恭拱控攻珙空蚣貢鞏串寡戈果瓜"⟩,
  ⟨0xCEA1, "科菓誇課跨過鍋顆廓槨藿郭\uF905冠官寬慣棺款灌琯瓘管罐菅觀貫關館刮恝括适侊光匡壙廣曠洸炚狂珖筐胱鑛卦掛罫乖傀塊壞怪愧拐槐魁宏紘肱轟交僑咬喬嬌嶠巧攪敎校橋狡皎" ++
    "矯絞翹膠蕎蛟較轎郊餃驕鮫丘久九仇俱具勾"⟩,
  ⟨0xCFA1, "區口句咎嘔坵垢寇嶇廐懼拘救枸柩構歐毆毬求溝灸狗玖球瞿矩究絿耉臼舅舊苟衢謳購軀逑邱鉤銶駒驅鳩鷗龜國局菊鞠鞫麴君窘群裙軍郡堀屈掘窟宮弓穹窮芎躬倦券勸卷圈拳捲權淃眷厥" ++
    "獗蕨蹶闕机櫃潰詭軌饋\uF906晷歸貴"⟩,
  ⟨0xD0A1, "鬼\uF907叫圭奎揆槻珪硅窺竅糾葵規赳逵閨勻均畇筠菌鈞\uF908橘克剋劇戟棘極隙僅劤勤懃斤根槿瑾筋芹菫覲謹近饉\uF909今妗擒昑檎琴禁禽芩衾衿襟" ++
    "\uF90A錦伋及急扱汲級給亘兢矜肯企伎其冀嗜器圻基埼夔奇妓寄岐崎己幾忌技旗旣"⟩,
  ⟨0xD1A1, "朞期杞棋棄機欺氣汽沂淇玘琦琪璂璣畸畿碁磯祁祇祈祺箕紀綺羈耆耭肌記譏豈起錡錤飢饑騎騏驥麒緊佶吉拮桔金喫儺\uF90B\uF90C娜懦\uF90D拏拿\uF90E" ++
    "\uF90F\uF910\uF911\uF912\uF913那\uF914\uF915\uF916\uF917\uF918諾\uF919\uF91A\uF91B\uF91C暖" ++
    "\uF91D煖\uF91E\uF91F難\uF920捏捺南\uF921枏楠湳\uF922男\uF923\uF924\uF925"⟩,
  ⟨0xD2A1, "納\uF926\uF927衲囊娘\uF928\uF929\uF92A\uF92B\uF92C乃\uF92D內奈柰耐\uF92E女年撚秊念恬拈捻寧寗努\uF92F" ++
    "奴弩怒\uF930\uF931\uF932瑙\uF933\uF934\uF935\uF936\uF937\uF938駑\uF939\uF93A\uF93B\uF93C" ++
    "\uF93D\uF93E\uF93F\uF940\uF941\uF942\uF943濃\uF944\uF945膿農惱\uF946\uF947腦\uF948\uF949尿" ++
    "\uF94A\uF94B\uF94C\uF94D\uF94E\uF94F\uF950\uF951嫩訥杻紐\uF952\uF953\uF954\uF955\uF956\uF957" ++
    "能\uF958\uF959尼泥匿溺多茶"⟩,
  ⟨0xD3A1, "丹亶但單團壇彖斷旦檀段湍短端簞緞蛋袒鄲鍛撻澾獺疸達啖坍憺擔曇淡湛潭澹痰聃膽蕁覃談譚錟沓畓答踏遝唐堂塘幢戇撞棠當糖螳黨代垈坮大對岱帶待戴擡玳臺袋貸隊黛宅德悳倒刀到" ++
    "圖堵塗導屠島嶋度徒悼挑掉搗桃"⟩,
  ⟨0xD4A1, "棹櫂淘渡滔濤燾盜睹禱稻萄覩賭跳蹈逃途道都鍍陶韜毒瀆牘犢獨督禿篤纛讀墩惇敦旽暾沌焞燉豚頓乭突仝冬凍動同憧東桐棟洞潼疼瞳童胴董銅兜斗杜枓痘竇荳\uF95A豆逗頭屯臀" ++
    "芚遁遯鈍得嶝橙燈登等藤謄鄧騰喇懶\uF95B癩羅"⟩,
  ⟨0xD5A1, "蘿螺裸邏\uF95C洛烙珞絡落\uF95D酪駱\uF95E亂卵欄欒瀾爛蘭鸞剌辣嵐擥攬欖濫籃纜藍襤覽拉臘蠟廊朗浪狼琅瑯螂郞來崍徠萊冷掠略亮倆兩凉梁樑粮粱糧良諒輛量" ++
    "侶儷勵呂廬慮戾旅櫚濾礪藜蠣閭驢驪麗黎力曆歷瀝礫轢靂憐戀攣漣"⟩,
  ⟨0xD6A1, "煉璉練聯蓮輦連鍊冽列劣洌烈裂廉斂殮濂簾獵令伶囹\uF95F岺嶺怜玲笭羚翎聆逞鈴零靈領齡例澧禮醴隷勞\uF960撈擄櫓潞瀘爐盧老蘆虜路輅露魯鷺鹵碌祿綠菉錄鹿麓論壟" ++
    "弄朧瀧瓏籠聾儡瀨牢磊賂賚賴雷了僚寮廖料燎療瞭聊蓼"⟩,
  ⟨0xD7A1, "遼鬧龍壘婁屢樓淚漏瘻累縷蔞褸鏤陋劉旒柳榴流溜瀏琉瑠留瘤硫謬類六戮陸侖倫崙淪綸輪律慄栗\uF961隆勒肋凜凌楞稜綾菱陵俚利厘吏唎履悧李梨浬犁狸理璃\uF962痢籬" ++
    "罹羸莉裏裡里釐離鯉吝潾燐璘藺躪隣鱗麟林淋琳臨霖砬"⟩,
  ⟨0xD8A1, "立笠粒摩瑪痲碼磨馬魔麻寞幕漠膜莫邈万卍娩巒彎慢挽晩曼滿漫灣瞞萬蔓蠻輓饅鰻唜抹末沫茉襪靺亡妄忘忙望網罔芒茫莽輞邙埋妹媒寐昧枚梅每煤罵買賣邁魅脈貊陌驀麥孟氓猛盲盟萌" ++
    "冪覓免冕勉棉沔眄眠綿緬面麵滅"⟩,
  ⟨0xD9A1, "蔑冥名命明暝椧溟皿瞑茗蓂螟酩銘鳴袂侮冒募姆帽慕摸摹暮某模母毛牟牡瑁眸矛耗芼茅謀謨貌木沐牧目睦穆鶩歿沒夢朦蒙卯墓妙廟描昴杳渺猫竗苗錨務巫憮懋戊拇撫无楙武毋無珷畝繆" ++
    "舞茂蕪誣貿霧鵡墨默們刎吻問文"⟩,
  ⟨0xDAA1, "汶紊紋聞蚊門雯勿沕物味媚尾嵋彌微未梶楣渼湄眉米美薇謎迷靡黴岷悶愍憫敏旻旼民泯玟珉緡閔密蜜謐剝博拍搏撲朴樸泊珀璞箔粕縛膊舶薄迫雹駁伴半反叛拌搬攀斑槃泮潘班畔瘢盤盼" ++
    "磐磻礬絆般蟠返頒飯勃拔撥渤潑"⟩,
  ⟨0xDBA1, "發跋醱鉢髮魃倣傍坊妨尨幇彷房放方旁昉枋榜滂磅紡肪膀舫芳蒡蚌訪謗邦防龐倍俳\uF963培徘拜排杯湃焙盃背胚裴裵褙賠輩配陪伯佰帛柏栢白百魄幡樊煩燔番\uF964繁蕃" ++
    "藩飜伐筏罰閥凡帆梵氾汎泛犯範范法琺僻劈壁擘檗璧癖"⟩,
  ⟨0xDCA1, "碧蘗闢霹\uF965卞弁變辨辯邊別瞥鱉鼈丙倂兵屛幷昞昺柄棅炳甁病秉竝輧餠騈保堡報寶普步洑湺潽珤甫菩補褓譜輔伏僕匐卜宓復服福腹茯蔔複覆輹輻馥鰒本乶俸奉封峯峰捧棒烽" ++
    "熢琫縫蓬蜂逢鋒鳳不付俯傅剖副否咐埠夫婦"⟩,
  ⟨0xDDA1, "孚孵富府\uF966扶敷斧浮溥父符簿缶腐腑膚艀芙莩訃負賦賻赴趺部釜阜附駙鳧北分吩噴墳奔奮忿憤扮昐汾焚盆粉糞紛芬賁雰\uF967佛弗彿拂崩朋棚硼繃鵬丕備匕匪卑妃婢" ++
    "庇悲憊扉批斐枇榧比毖毗毘沸\uF968琵痺砒碑秕秘粃緋翡肥"⟩]

/-- The characters of the code page 949, from `0xDEA1` on. -/
def koreanRowsFromDEA1 : List CellRow := [
  ⟨0xDEA1, "脾臂菲蜚裨誹譬費鄙非飛鼻嚬嬪彬斌檳殯浜濱瀕牝玭貧賓頻憑氷聘騁乍事些仕伺似使俟僿史司唆嗣四士奢娑寫寺射巳師徙思捨斜斯柶査梭死沙泗渣瀉獅砂社祀祠私篩紗絲肆舍莎蓑蛇裟" ++
    "詐詞謝賜赦辭邪飼駟麝削\uF969朔\uF96A"⟩,
  ⟨0xDFA1, "傘刪山散汕珊産疝算蒜酸霰乷撒殺煞薩三\uF96B杉森渗芟蔘衫揷澁鈒颯上傷像償商喪嘗孀尙峠常床庠廂想桑橡湘爽牀狀相祥箱翔裳觴詳象賞霜塞璽賽嗇\uF96C穡索色牲生" ++
    "甥\uF96D笙墅壻嶼序庶徐恕抒捿敍暑曙書栖棲犀瑞筮絮緖署"⟩,
  ⟨0xE0A1, "胥舒薯西誓逝鋤黍鼠夕奭席惜昔晳析汐淅潟石碩蓆釋錫仙僊先善嬋宣扇敾旋渲煽琁瑄璇璿癬禪線繕羨腺膳船蘚蟬詵跣選銑鐥饍鮮卨屑楔泄洩渫舌薛褻設說雪齧剡暹殲纖蟾贍閃陝攝涉燮" ++
    "\uF96E城姓宬性惺成星晟猩珹盛省筬"⟩,
  ⟨0xE1A1, "聖聲腥誠醒世勢歲洗稅笹細\uF96F貰召嘯塑宵小少巢所掃搔昭梳沼消溯瀟炤燒甦疏疎瘙笑篠簫素紹蔬蕭蘇訴逍遡邵銷韶騷俗屬束涑粟續謖贖速孫巽損蓀遜飡率宋悚松淞訟誦送頌" ++
    "刷\uF970灑碎鎖衰釗修受嗽囚垂壽嫂守岫峀帥愁"⟩,
  ⟨0xE2A1, "戍手授搜收數樹殊水洙漱燧狩獸琇璲瘦睡秀穗竪粹綏綬繡羞脩茱蒐蓚藪袖誰讐輸遂邃酬銖銹隋隧隨雖需須首髓鬚叔塾夙孰宿淑潚熟琡璹肅菽巡徇循恂旬栒楯橓殉洵淳珣盾瞬筍純脣舜荀" ++
    "蓴蕣詢諄醇錞順馴戌術述鉥崇崧"⟩,
  ⟨0xE3A1, "嵩瑟膝蝨濕拾習褶襲丞乘僧勝升承昇繩蠅陞侍匙嘶始媤尸屎屍市弑恃施是時枾柴猜矢示翅蒔蓍視試詩諡豕豺埴寔式息拭植殖湜熄篒蝕識軾食飾伸侁信呻娠宸愼新晨燼申神紳腎臣莘薪藎" ++
    "蜃訊身辛\uF971迅失室實悉審尋心沁"⟩,
  ⟨0xE4A1, "\uF972深瀋甚芯諶什十\uF973雙氏亞俄兒啞娥峨我牙芽莪蛾衙訝阿雅餓鴉鵝堊岳嶽幄惡愕握樂渥鄂鍔顎鰐齷安岸按晏案眼雁鞍顔鮟斡謁軋閼唵岩巖庵暗癌菴闇壓押狎鴨仰" ++
    "央怏昻殃秧鴦厓哀埃崖愛曖涯碍艾隘靄厄扼掖液縊腋額"⟩,
  ⟨0xE5A1, "櫻罌鶯鸚也倻冶夜惹揶椰爺耶\uF974野弱\uF975\uF976約若葯蒻藥躍\uF977佯\uF978\uF979壤孃恙揚攘敭暘\uF97A楊樣洋瀁煬痒瘍禳穰" ++
    "\uF97B羊\uF97C襄\uF97D讓釀陽\uF97E養圄御於漁瘀禦語馭魚齬億憶抑檍臆偃堰彦焉言諺孼蘖俺儼嚴奄掩淹嶪業円予余\uF97F\uF980\uF981如" ++
    "\uF982"⟩,
  ⟨0xE6A1, "\uF983歟汝\uF984璵礖\uF985與艅茹輿轝\uF986餘\uF987\uF988\uF989亦\uF98A域役易\uF98B\uF98C疫繹譯" ++
    "\uF98D逆驛嚥堧姸娟宴\uF98E延\uF98F\uF990捐挻\uF991椽沇沿涎涓淵演\uF992烟然煙\uF993燃燕\uF994硏硯\uF995筵緣\uF996縯" ++
    "\uF997衍軟\uF998\uF999\uF99A鉛\uF99B鳶\uF99C\uF99D\uF99E悅涅\uF99F熱\uF9A0\uF9A1閱厭\uF9A2\uF9A3" ++
    "\uF9A4染\uF9A5炎焰琰艶苒"⟩,
  ⟨0xE7A1, "\uF9A6閻髥鹽曄\uF9A7燁葉\uF9A8\uF9A9塋\uF9AA\uF9AB嶸影\uF9AC映暎楹榮永泳渶潁濚瀛瀯煐營獰\uF9AD瑛\uF9AE瓔盈" ++
    "穎纓\uF9AF\uF9B0英詠迎\uF9B1鍈\uF9B2霙\uF9B3\uF9B4乂倪\uF9B5刈叡曳汭濊猊睿穢芮藝蘂\uF9B6裔詣譽豫\uF9B7銳\uF9B8霓預五" ++
    "伍俉傲午吾吳嗚塢墺奧娛寤悟\uF9B9懊敖旿晤梧汚澳"⟩,
  ⟨0xE8A1, "烏熬獒筽蜈誤鰲鼇屋沃獄玉鈺溫瑥瘟穩縕蘊兀壅擁瓮甕癰翁邕雍饔渦瓦窩窪臥蛙蝸訛婉完宛梡椀浣玩琓琬碗緩翫脘腕莞豌阮頑曰往旺枉汪王倭娃歪矮外嵬巍猥畏\uF9BA" ++
    "\uF9BB僥凹堯夭妖姚寥\uF9BC\uF9BD嶢拗搖撓擾\uF9BE曜\uF9BF橈\uF9C0燿瑤\uF9C1"⟩,
  ⟨0xE9A1, "窈窯繇繞耀腰\uF9C2蟯要謠遙\uF9C3邀饒慾欲浴縟褥辱俑傭冗勇埇墉容庸慂榕涌湧溶熔瑢用甬聳茸蓉踊鎔鏞\uF9C4于佑偶優又友右宇寓尤愚憂旴牛玗瑀盂祐禑禹紆" ++
    "羽芋藕虞迂遇郵釪隅雨雩勖彧旭昱栯煜稶郁頊云\uF9C5橒殞澐熉耘芸蕓"⟩,
  ⟨0xEAA1, "運隕雲韻蔚鬱亐熊雄元原員圓園垣媛嫄寃怨愿援沅洹湲源爰猿瑗苑袁轅遠\uF9C6院願鴛月越鉞位偉僞危圍委威尉慰暐渭爲瑋緯胃萎葦蔿蝟衛褘謂違韋魏乳侑儒兪\uF9C7唯" ++
    "喩孺宥幼幽庾悠惟愈愉揄攸有\uF9C8柔柚\uF9C9楡楢油洧\uF9CA游\uF9CB"⟩,
  ⟨0xEBA1, "濡猶猷\uF9CC瑜由\uF9CD癒\uF9CE\uF9CF維臾萸裕誘諛諭踰蹂遊逾遺酉釉鍮\uF9D0\uF9D1堉\uF9D2毓肉育\uF9D3\uF9D4允" ++
    "奫尹\uF9D5\uF9D6潤玧胤贇\uF9D7鈗閏\uF9D8\uF9D9\uF9DA\uF9DB聿戎瀜絨融\uF9DC垠恩慇殷誾銀隱乙吟淫蔭陰音飮揖泣邑凝應膺鷹依倚儀宜意懿" ++
    "擬椅毅疑矣義艤薏蟻衣誼"⟩,
  ⟨0xECA1, "議醫二以伊\uF9DD\uF9DE夷姨\uF9DF已弛彛怡\uF9E0\uF9E1\uF9E2\uF9E3爾珥\uF9E4異痍\uF9E5移\uF9E6而耳肄苡" ++
    "荑\uF9E7\uF9E8貽貳邇\uF9E9\uF9EA飴餌\uF9EB\uF9EC瀷益翊翌翼謚人仁刃印\uF9ED咽因姻寅引忍湮\uF9EE\uF9EF絪茵\uF9F0蚓認" ++
    "\uF9F1靭靷\uF9F2\uF9F3一佚佾壹日溢逸鎰馹任壬妊姙恁\uF9F4\uF9F5稔\uF9F6荏賃入卄"⟩,
  ⟨0xEDA1, "\uF9F7\uF9F8\uF9F9仍剩孕芿仔刺咨姉姿子字孜恣慈滋炙煮玆瓷疵磁紫者自茨蔗藉諮資雌作勺嚼斫昨灼炸爵綽芍酌雀鵲孱棧殘潺盞岑暫潛箴簪蠶雜丈仗匠場墻壯奬" ++
    "將帳庄張掌暲杖樟檣欌漿牆\uF9FA獐璋章粧腸臟臧莊葬蔣薔藏裝贓醬長"⟩,
  ⟨0xEEA1, "障再哉在宰才材栽梓渽滓災縡裁財載齋齎爭箏諍錚佇低儲咀姐底抵杵楮樗沮渚狙猪疽箸紵苧菹著藷詛貯躇這邸雎齟勣吊嫡寂摘敵滴狄\uF9FB的積笛籍績翟荻謫賊赤跡蹟迪迹適鏑" ++
    "佃佺傳全典前剪塡塼奠專展廛悛戰栓殿氈澱"⟩,
  ⟨0xEFA1, "煎琠田甸畑癲筌箋箭篆纏詮輾轉鈿銓錢鐫電顚顫餞切截折浙癤竊節絶占岾店漸点粘霑鮎點接摺蝶丁井亭停偵呈姃定幀庭廷征情挺政整旌晶晸柾楨檉正汀淀淨渟湞瀞炡玎珽町睛碇禎程穽" ++
    "精綎艇訂諪貞鄭酊釘鉦鋌錠霆靖"⟩,
  ⟨0xF0A1, "靜頂鼎制劑啼堤帝弟悌提梯濟祭第臍薺製諸蹄醍除際霽題齊俎兆凋助嘲弔彫措操早晁曺曹朝條棗槽漕潮照燥爪璪眺祖祚租稠窕粗糟組繰肇藻蚤詔調趙躁造遭釣阻雕鳥族簇足鏃存尊卒拙" ++
    "猝倧宗從悰慫棕淙琮種終綜縱腫"⟩,
  ⟨0xF1A1, "踪踵鍾鐘佐坐左座挫罪主住侏做姝胄呪周嗾奏宙州廚晝朱柱株注洲湊澍炷珠疇籌紂紬綢舟蛛註誅走躊輳週酎酒鑄駐竹粥俊儁准埈寯峻晙樽浚準濬焌畯竣蠢逡遵雋駿茁中仲衆重卽櫛楫汁" ++
    "葺增憎曾拯烝甑症繒蒸證贈之只"⟩,
  ⟨0xF2A1, "咫地址志持指摯支旨智枝枳止池沚漬知砥祉祗紙肢脂至芝芷蜘誌\uF9FC贄趾遲直稙稷織職唇嗔塵振搢晉晋桭榛殄津溱珍瑨璡畛疹盡眞瞋秦縉縝臻蔯袗診賑軫辰進鎭陣陳震侄叱姪" ++
    "嫉帙桎瓆疾秩窒膣蛭質跌迭斟朕\uF9FD執潗緝輯"⟩,
  ⟨0xF3A1, "鏶集徵懲澄且侘借叉嗟嵯差次此磋箚\uF9FE蹉車遮捉搾着窄錯鑿齪撰澯燦璨瓚竄簒纂粲纘讚贊鑽餐饌刹察擦札紮僭參塹慘慙懺斬站讒讖倉倡創唱娼廠彰愴敞昌昶暢槍滄漲猖瘡窓" ++
    "脹艙菖蒼債埰寀寨彩採砦綵菜蔡采釵冊柵策"⟩,
  ⟨0xF4A1, "責凄妻悽處倜\uF9FF剔尺慽戚拓擲斥滌瘠脊蹠陟隻仟千喘天川擅泉淺玔穿舛薦賤踐遷釧闡阡韆凸哲喆徹撤澈綴輟轍鐵僉尖沾添甛瞻簽籤詹諂堞妾帖捷牒疊睫諜貼輒廳晴淸聽菁請" ++
    "靑鯖\uFA00剃替涕滯締諦逮遞體初剿哨憔抄招梢"⟩,
  ⟨0xF5A1, "椒楚樵炒焦硝礁礎秒稍肖艸苕草蕉貂超酢醋醮促囑燭矗蜀觸寸忖村邨叢塚寵悤憁摠總聰蔥銃撮催崔最墜抽推椎楸樞湫皺秋芻萩諏趨追鄒酋醜錐錘鎚雛騶鰍丑畜祝竺筑築縮蓄蹙蹴軸逐春" ++
    "椿瑃出朮黜充忠沖蟲衝衷悴膵萃"⟩]

/-- The characters of the code page 949, from `0xF6A1` on. -/
def koreanRowsFromF6A1 : List CellRow := [
  ⟨0xF6A1, "贅取吹嘴娶就炊翠聚脆臭趣醉驟鷲側仄厠惻測層侈値嗤峙幟恥梔治淄熾痔痴癡稚穉緇緻置致蚩輜雉馳齒則勅飭親七柒漆侵寢枕沈浸琛砧針鍼蟄秤稱快他咤唾墮妥惰打拖朶楕舵陀馱駝倬" ++
    "卓啄坼\uFA01托\uFA02擢晫柝濁濯琢琸託"⟩,
  ⟨0xF7A1, "鐸呑嘆坦彈憚歎灘炭綻誕奪脫探眈耽貪塔搭榻宕帑湯\uFA03蕩兌台太怠態殆汰泰笞胎苔跆邰颱\uFA04擇澤撑攄兎吐土討慟桶\uFA05痛筒統通堆槌腿褪退頹偸套妬投" ++
    "透鬪慝特闖坡婆巴把播擺杷波派爬琶破罷芭跛頗判坂板版瓣販辦鈑"⟩,
  ⟨0xF8A1, "阪八叭捌佩唄悖敗沛浿牌狽稗覇貝彭澎烹膨愎便偏扁片篇編翩遍鞭騙貶坪平枰萍評吠嬖幣廢弊斃肺蔽閉陛佈包匍匏咆哺圃布怖抛抱捕\uFA06泡浦疱砲胞脯苞葡蒲袍褒逋鋪飽鮑幅" ++
    "暴曝瀑爆\uFA07俵剽彪慓杓標漂瓢票表豹飇飄驃"⟩,
  ⟨0xF9A1, "品稟楓諷豊風馮彼披疲皮被避陂匹弼必泌珌畢疋筆苾馝乏逼下何厦夏廈昰河瑕荷蝦賀遐霞鰕壑學虐謔鶴寒恨悍旱汗漢澣瀚罕翰閑閒限韓割轄函含咸啣喊檻涵緘艦銜陷鹹合哈盒蛤閤闔陜" ++
    "亢伉姮嫦巷恒抗杭桁沆港缸肛航"⟩,
  ⟨0xFAA1, "\uFA08\uFA09項亥偕咳垓奚孩害懈楷海瀣蟹解該諧邂駭骸劾核倖幸杏荇行享向嚮珦鄕響餉饗香噓墟虛許憲櫶獻軒歇險驗奕爀赫革俔峴弦懸晛泫炫玄玹現眩睍絃絢縣舷衒" ++
    "\uFA0A賢鉉顯孑穴血頁嫌俠協夾峽挾浹狹脅脇莢鋏頰亨兄刑型"⟩,
  ⟨0xFBA1, "形泂滎瀅灐炯熒珩瑩荊螢衡逈邢鎣馨兮彗惠慧暳蕙蹊醯鞋乎互呼壕壺好岵弧戶扈昊晧毫浩淏湖滸澔濠濩灝狐琥瑚瓠皓祜糊縞胡芦葫蒿虎號蝴護豪鎬頀顥惑或酷婚昏混渾琿魂忽惚笏哄弘" ++
    "汞泓洪烘紅虹訌鴻化和嬅樺火畵"⟩,
  ⟨0xFCA1, "禍禾花華話譁貨靴\uFA0B擴攫確碻穫丸喚奐宦幻患換歡晥桓渙煥環紈還驩鰥活滑猾豁闊凰幌徨恍惶愰慌晃晄榥況湟滉潢煌璜皇篁簧荒蝗遑隍黃匯回廻徊恢悔懷晦會檜淮澮灰獪繪" ++
    "膾茴蛔誨賄劃獲宖橫鐄哮嚆孝效斅曉梟涍淆"⟩,
  ⟨0xFDA1, "爻肴酵驍侯候厚后吼喉嗅帿後朽煦珝逅勛勳塤壎焄熏燻薰訓暈薨喧暄煊萱卉喙毁彙徽揮暉煇諱輝麾休携烋畦虧恤譎鷸兇凶匈洶胸黑昕欣炘痕吃屹紇訖欠欽歆吸恰洽翕興僖凞喜噫囍姬嬉" ++
    "希憙憘戱晞曦熙熹熺犧禧稀羲詰"⟩]

/-- The characters of the code page 949. -/
def koreanRows : List CellRow :=
  koreanRowsFrom8141 ++ koreanRowsFrom9941 ++ koreanRowsFromAE41 ++ koreanRowsFromC641 ++
  koreanRowsFromDEA1 ++ koreanRowsFromF6A1

end VarsAdvisor.Text
